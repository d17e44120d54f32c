import SchemaLineage.Decimal.Binary64
import SchemaLineage.Text.Split
/-
Numbers written as text: digits with a point and an exponent, or the words for what is not finite.
-/

namespace SchemaLineage
namespace Binary64

def numeralValue (ds : List Char) : Nat := ds.foldl (fun n d => n * 10 + (d.toNat - 48)) 0

/-- The exponent after its mark, with or without a sign. -/
def exponentOf? (cs : List Char) : Option Int :=
  let (negative, ds) :=
    match cs with
    | '-' :: r => (true, r)
    | '+' :: r => (false, r)
    | r => (false, r)
  if ds.isEmpty || !ds.all Char.isDigit then none
  else some (if negative then -(numeralValue ds : Int) else numeralValue ds)

/-- A number without a sign.  There is a digit before or after the point. -/
def ofUnsigned? (negative : Bool) (cs : List Char) : Option Binary64 :=
  let lower := cs.map Char.toLower
  if lower = "inf".toList ∨ lower = "infinity".toList then some (.infinite negative)
  else if lower = "nan".toList then some .undefined
  else
    let whole := cs.takeWhile Char.isDigit
    let rest := cs.dropWhile Char.isDigit
    let (fraction, rest) :=
      match rest with
      | '.' :: r => (r.takeWhile Char.isDigit, r.dropWhile Char.isDigit)
      | r => ([], r)
    if whole.isEmpty && fraction.isEmpty then none
    else
      let number (e : Int) : Binary64 :=
        ofDecimal negative (numeralValue (whole ++ fraction)) (e - fraction.length)
      match rest with
      | [] => some (number 0)
      | c :: r => if c.toLower = 'e' then (exponentOf? r).map number else none

def ofNumeral? (cs : List Char) : Option Binary64 :=
  match cs with
  | '-' :: r => ofUnsigned? true r
  | '+' :: r => ofUnsigned? false r
  | r => ofUnsigned? false r

/-- The text without its low lines, each of which stands alone between two characters. -/
def withoutLowLines? (cs : List Char) : Option (List Char) :=
  let parts := Text.splitWhen (· == '_') cs
  if 1 < parts.length && parts.all fun p => !p.isEmpty then some parts.flatten else none

end Binary64
end SchemaLineage
