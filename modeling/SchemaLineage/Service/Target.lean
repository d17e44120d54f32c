import SchemaLineage.Json.Reader
import SchemaLineage.Text.Split
import SchemaLineage.Text.Utf8
/-
The target of a request: a path and the parameters behind it.

Percent escapes stand for bytes.  They are undone before the path is cut into segments, so a segment
never holds a slash.
-/

namespace SchemaLineage
namespace Text

/-- The bytes of a text in which escapes have been undone; an incomplete escape stands for itself. -/
def unescapedBytes : List Char → List Nat
  | [] => []
  | '%' :: a :: b :: cs =>
    match Json.hexValue? a, Json.hexValue? b with
    | some x, some y => (16 * x + y) :: unescapedBytes cs
    | _, _ => 0x25 :: unescapedBytes (a :: b :: cs)
  | c :: cs => encodeChar c ++ unescapedBytes cs

def unescaped (cs : List Char) : List Char := decodeBytes (unescapedBytes cs)

/-- In a parameter a plus sign stands for a space. -/
def unescapedParameter (cs : List Char) : String :=
  String.ofList (unescaped (cs.map fun c => if c = '+' then ' ' else c))

end Text

open Text

structure Target where
  /-- The path with its escapes undone. -/
  path : List Char
  /-- What comes after the question mark, as it was sent. -/
  query : List Char
  deriving DecidableEq, Repr

namespace Target

def ofText (cs : List Char) : Target :=
  let sent := cs.takeWhile (· != '#')
  ⟨unescaped (sent.takeWhile (· != '?')), (sent.dropWhile (· != '?')).drop 1⟩

/-- What stands between the slashes of a path that begins with one. -/
def segments (t : Target) : Option (List (List Char)) :=
  match t.path with
  | '/' :: cs => some (splitWhen (· == '/') cs)
  | _ => none

def parameters (t : Target) : List (String × String) :=
  ((splitWhen (· == '&') t.query).filter fun p => !p.isEmpty).map fun p =>
    (unescapedParameter (p.takeWhile (· != '=')), unescapedParameter ((p.dropWhile (· != '=')).drop 1))

/-- The value of a parameter; of several the last counts. -/
def parameter? (t : Target) (name : String) : Option String := t.parameters.reverse.lookup name

/-- The target without slashes at the end of its path. -/
def trimmed (t : Target) : Target :=
  { t with path := (t.path.reverse.dropWhile (· == '/')).reverse }

/-- The target that is read when the path is sent as it stands. -/
def reread (t : Target) : Target :=
  ofText (t.path ++ if t.query.isEmpty then [] else '?' :: t.query)

end Target
end SchemaLineage
