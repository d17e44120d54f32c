import SchemaLineage.Text.WordTable
/-
Word characters, from which names are made.
-/

namespace SchemaLineage
namespace Text

/-- The characters a name may start with when only the Latin letters are allowed: the letters and
the low line. -/
def isNameStart (c : Char) : Bool :=
  let n := c.toNat
  (65 ≤ n && n ≤ 90) || (97 ≤ n && n ≤ 122) || n == 95

/-- Letters, digits and other numbers of any script, and the low line. -/
def isWord (c : Char) : Bool :=
  if c.toNat < 128 then isNameStart c || c.isDigit
  else wordRanges.any fun r => r.1 ≤ c.toNat && c.toNat ≤ r.2

end Text
end SchemaLineage
