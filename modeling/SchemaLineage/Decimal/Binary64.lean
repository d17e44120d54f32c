/-
Binary floating-point numbers with 53 significant bits, kept as exact integers so that rounding and
printing stay in the logic.
-/

namespace SchemaLineage

/-- `finite s m e` is `± m * 2 ^ e`, negative when `s` is true.  The form is unique: `m < 2 ^ 53`,
and either `2 ^ 52 ≤ m` or `e` is the least exponent. -/
inductive Binary64 where
  | finite (negative : Bool) (significand : Nat) (exponent : Int)
  | infinite (negative : Bool)
  | undefined
  deriving DecidableEq, Repr

namespace Binary64

def leastExponent : Int := -1074

def greatestExponent : Int := 971

/-- Significands lie below `2 ^ 53`. -/
def significandLimit : Nat := 0x20000000000000

def zero (negative : Bool) : Binary64 := .finite negative 0 leastExponent

/-- The integer nearest to `num / den`; a tie goes to the even neighbour. -/
def divideToEven (num den : Nat) : Nat :=
  let q := num / den
  let r := num % den
  if 2 * r < den then q else if den < 2 * r then q + 1 else q + q % 2

/-- `num / den` measured in units of `2 ^ e`, rounded to an integer. -/
def inUnits (num den : Nat) (e : Int) : Nat :=
  if e < 0 then divideToEven (num * Nat.pow 2 e.natAbs) den
  else divideToEven num (den * Nat.pow 2 e.natAbs)

/-- Whether `num / den` reaches `2 ^ e`. -/
def reaches (num den : Nat) (e : Int) : Bool :=
  if e < 0 then den ≤ num * Nat.pow 2 e.natAbs else den * Nat.pow 2 e.natAbs ≤ num

/-- The nearest number to the positive ratio `num / den`; a tie goes to the even significand. -/
def ofRatio (negative : Bool) (num den : Nat) : Binary64 :=
  if num = 0 then zero negative
  else
    let guess : Int := (num.log2 : Int) - den.log2
    let top := if reaches num den guess then guess else guess - 1
    let e := max leastExponent (top - 52)
    let m := inUnits num den e
    let (m, e) := if m = significandLimit then (m / 2, e + 1) else (m, e)
    if greatestExponent < e then .infinite negative else .finite negative m e

/-- The nearest number to `digits * 10 ^ scale`.  Beyond four hundred places the answer is zero or
infinite, so no large power is formed. -/
def ofDecimal (negative : Bool) (digits : Nat) (scale : Int) : Binary64 :=
  let places : Int := (Nat.toDigits 10 digits).length + scale
  if digits = 0 ∨ places < -400 then zero negative
  else if 400 < places then .infinite negative
  else if scale < 0 then ofRatio negative digits (Nat.pow 10 scale.natAbs)
  else ofRatio negative (digits * Nat.pow 10 scale.natAbs) 1

def isNegative : Binary64 → Bool
  | .finite s m _ => s && m != 0
  | .infinite s => s
  | .undefined => false

def isZero : Binary64 → Bool
  | .finite _ m _ => m == 0
  | _ => false

/-- The integer that the number equals, if it is one. -/
def toInt? : Binary64 → Option Int
  | .finite s m e =>
    let sign : Int := if s then -1 else 1
    if 0 ≤ e then some (sign * (m * Nat.pow 2 e.natAbs : Nat))
    else if m % Nat.pow 2 e.natAbs = 0 then some (sign * (m / Nat.pow 2 e.natAbs : Nat))
    else none
  | _ => none

end Binary64
end SchemaLineage
