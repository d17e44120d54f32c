import SchemaLineage.Decimal.Binary64
/-
The decimal text of a binary number: the fewest digits that read back as the same number, and of
those the nearest to it.
-/

namespace SchemaLineage
namespace Binary64

/-- `digits * 10 ^ scale`. -/
structure Decimal where
  digits : Nat
  scale : Int
  deriving DecidableEq, Repr

/-- The multiple of `10 ^ scale` at or below `num / den`. -/
def floorAt (num den : Nat) (scale : Int) : Nat :=
  if scale < 0 then num * Nat.pow 10 scale.natAbs / den else num / (den * Nat.pow 10 scale.natAbs)

/-- The exponent of the leading decimal digit of the positive ratio `num / den`, found downwards
from a value that is large enough. -/
def leadingPlace (num den : Nat) : Int :=
  let guess : Int := (Nat.toDigits 10 num).length - (Nat.toDigits 10 den).length
  if 0 < floorAt num den guess then guess else guess - 1

/-- Whether `a / b` is at least as near to `num / den` from above as `c / b` is from below, the
even candidate winning a tie. -/
def nearerAbove (num den : Nat) (scale : Int) (low : Nat) : Bool :=
  let (value, unit) :=
    if scale < 0 then (num * Nat.pow 10 scale.natAbs, den) else (num, den * Nat.pow 10 scale.natAbs)
  let twice := 2 * value
  let middle := (2 * low + 1) * unit
  middle < twice || (middle == twice && low % 2 == 1)

/-- The candidate with `count` digits, if one of the two neighbours reads back. -/
def candidate? (m : Nat) (e : Int) (num den : Nat) (count : Nat) : Option Decimal :=
  let scale := leadingPlace num den - (count - 1 : Nat)
  let low := floorAt num den scale
  let readsBack (d : Nat) : Bool := ofDecimal false d scale == .finite false m e
  let order := if nearerAbove num den scale low then [low + 1, low] else [low, low + 1]
  (order.find? readsBack).map (⟨·, scale⟩)

/-- Without trailing zeros. -/
def trimZeros : Nat → Nat → Int → Decimal
  | 0, d, s => ⟨d, s⟩
  | n + 1, d, s => if d ≠ 0 ∧ d % 10 = 0 then trimZeros n (d / 10) (s + 1) else ⟨d, s⟩

/-- The shortest decimal that reads back as `m * 2 ^ e`; seventeen digits always do. -/
def shortest (m : Nat) (e : Int) : Decimal :=
  let (num, den) := if e < 0 then (m, Nat.pow 2 e.natAbs) else (m * Nat.pow 2 e.natAbs, 1)
  match (List.range 17).findSome? fun k => candidate? m e num den (k + 1) with
  | some d => trimZeros 18 d.digits d.scale
  | none => ⟨floorAt num den 0, 0⟩

/-- How a number is laid out as text. -/
structure Layout where
  /-- The leading digit's exponents that are written without an exponent. -/
  leastPlace : Int
  placeLimit : Int
  /-- The least count of digits in an exponent. -/
  exponentDigits : Nat

/-- Seconds are written positionally from a ten-thousandth up to sixteen digits. -/
def Layout.seconds : Layout := ⟨-4, 16, 2⟩

def padded (width : Nat) (n : Nat) : String :=
  let ds := Nat.toDigits 10 n
  String.ofList (List.replicate (width - ds.length) '0' ++ ds)

def layDecimal (l : Layout) (d : Decimal) : String :=
  let ds := Nat.toDigits 10 d.digits
  let place : Int := d.scale + ds.length - 1
  if l.leastPlace ≤ place ∧ place < l.placeLimit then
    if 0 ≤ d.scale then String.ofList (ds ++ List.replicate d.scale.toNat '0') ++ ".0"
    else if 0 ≤ place then
      String.ofList (ds.take (place.toNat + 1)) ++ "." ++ String.ofList (ds.drop (place.toNat + 1))
    else "0." ++ String.ofList (List.replicate (-place - 1).toNat '0' ++ ds)
  else
    let fraction := if ds.length ≤ 1 then "" else "." ++ String.ofList (ds.drop 1)
    let sign := if place < 0 then "-" else "+"
    String.ofList (ds.take 1) ++ fraction ++ "e" ++ sign ++ padded l.exponentDigits place.natAbs

def text (l : Layout) : Binary64 → String
  | .finite s m e =>
    (if s then "-" else "") ++ (if m = 0 then "0.0" else layDecimal l (shortest m e))
  | .infinite s => if s then "-inf" else "inf"
  | .undefined => "nan"

end Binary64
end SchemaLineage
