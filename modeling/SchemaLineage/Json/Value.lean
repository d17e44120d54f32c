import SchemaLineage.Decimal.Binary64
/-
JSON values.  An object is the list of its members in order, so that what is read can be told apart
by order and printed the same way.
-/

namespace SchemaLineage

inductive Json where
  | null
  | bool (b : Bool)
  | int (n : Int)
  | float (x : Binary64)
  | str (s : String)
  | arr (items : List Json)
  | obj (members : List (String × Json))
  deriving Repr, Inhabited

namespace Json

/-- The value of a member; an object that has none, and any other value, give `null`. -/
def get? : Json → String → Option Json
  | .obj ms, k => ms.lookup k
  | _, _ => none

def optional : Option Json → Json
  | none => .null
  | some v => v

def text? (s : Option String) : Json := optional (s.map .str)

/-- Whether a value counts as present where only emptiness is asked for. -/
def isTruthy : Json → Bool
  | .null => false
  | .bool b => b
  | .int n => n != 0
  | .float x => !x.isZero
  | .str s => !s.isEmpty
  | .arr xs => !xs.isEmpty
  | .obj ms => !ms.isEmpty

def string? : Json → Option String
  | .str s => some s
  | _ => none

def items : Json → List Json
  | .arr xs => xs
  | _ => []

def members : Json → List (String × Json)
  | .obj ms => ms
  | _ => []

end Json

end SchemaLineage
