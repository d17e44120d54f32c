import SchemaLineage.Text.Split
import SchemaLineage.Text.Case
/-
The canonical spelling of a type's name: lowercase, without length and precision, with the short
names that some catalogs report replaced by the usual ones.
-/

namespace SchemaLineage
namespace TypeName

open Text

/-- What is said of a type that the catalog does not name. -/
def unknown : String := "unknown"

def aliases : List (String × String) :=
  [("int2", "smallint"), ("int4", "integer"), ("int", "integer"), ("int8", "bigint"),
   ("bool", "boolean"), ("float4", "real"), ("float8", "double precision"),
   ("timestamptz", "timestamp with time zone"), ("timetz", "time with time zone"),
   ("bpchar", "character")]

/-- Without the parts in parentheses.  A parenthesis that is not closed stays. -/
def dropModifiers (cs : List Char) : List Char :=
  match cs with
  | [] => []
  | c :: r =>
    if c = '(' ∧ ')' ∈ r then dropModifiers ((r.dropWhile (· != ')')).drop 1)
    else c :: dropModifiers r
  termination_by cs.length
  decreasing_by
    · have : (r.dropWhile (· != ')')).length ≤ r.length := (List.dropWhile_sublist _).length_le
      simp only [List.length_cons, List.length_drop]; omega
    · simp

/-- The number of array brackets at the end of a name and what stands before them.  The name is
given, and the answer too, with its last character first. -/
def peelBack (cs : List Char) : Nat × List Char :=
  match cs with
  | ']' :: '[' :: r =>
    let (n, base) := peelBack (r.dropWhile isBlank)
    (n + 1, base)
  | r => (0, r)
  termination_by cs.length
  decreasing_by
    have : (r.dropWhile isBlank).length ≤ r.length := (List.dropWhile_sublist _).length_le
    simp only [List.length_cons]; omega

def peel (cs : List Char) : Nat × List Char :=
  let (n, back) := peelBack cs.reverse
  (n, back.reverse)

def brackets (n : Nat) : String := String.join (List.replicate n "[]")

/-- One blank between the words of the name, no quotes, no modifiers. -/
def plain (cs : List Char) : List Char :=
  (collapse (dropModifiers (lower (strip cs)))).filter (· != '"')

def normalize (raw : Option String) : String :=
  let cs := (raw.getD "").toList
  if cs.all isBlank then unknown
  else
    let (n, base) := peel (plain cs)
    let name := String.ofList base
    (aliases.lookup name).getD name ++ brackets n

end TypeName
end SchemaLineage
