import SchemaLineage.Json.Value
import SchemaLineage.Decimal.Shortest
import SchemaLineage.Text.Quoted
/-
The plain text of a JSON value: a text stands for itself, and within a list or an object it is put in
quotes.
-/

namespace SchemaLineage
namespace Json

mutual

def literal : Json → String
  | .null => "None"
  | .bool b => if b then "True" else "False"
  | .int n => toString n
  | .float x => x.text .seconds
  | .str s => Text.quoted s
  | .arr items => "[" ++ ", ".intercalate (itemLiterals items) ++ "]"
  | .obj members => "\x7b" ++ ", ".intercalate (memberLiterals members) ++ "\x7d"

def itemLiterals : List Json → List String
  | [] => []
  | v :: vs => v.literal :: itemLiterals vs

def memberLiterals : List (String × Json) → List String
  | [] => []
  | (k, v) :: ms => (Text.quoted k ++ ": " ++ v.literal) :: memberLiterals ms

end

def plainText : Json → String
  | .str s => s
  | v => v.literal

end Json
end SchemaLineage
