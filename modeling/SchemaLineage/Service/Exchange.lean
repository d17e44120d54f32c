import SchemaLineage.Service.Target
import SchemaLineage.Text.Case
import SchemaLineage.Validation.Shape
/-
Requests and responses.
-/

namespace SchemaLineage

inductive Method where
  | get
  | post
  | delete
  | other
  deriving DecidableEq, Repr

namespace Method

def words : List (String × Method) := [("GET", get), ("POST", post), ("DELETE", delete)]

def ofText (s : String) : Method := (words.lookup (Text.uppered s)).getD other

end Method

structure Request where
  method : Method
  target : Target
  body : Option String := none
  deriving DecidableEq, Repr

/-- An answer.  A body that is a bare text stands as the text's value. -/
structure Response where
  status : Nat
  body : Json

namespace Place

def toJson : Place → Json
  | field name => .str name
  | index position => .int position

end Place

namespace Fault

def toJson (f : Fault) : Json :=
  .obj [("loc", .arr (f.path.map Place.toJson)), ("type", .str f.cause.kind),
    ("msg", .str f.cause.message)]

end Fault

namespace Response

def detail (status : Nat) (text : String) : Response := ⟨status, .obj [("detail", .str text)]⟩

def notFound : Response := detail 404 "Not Found"

def methodNotAllowed : Response := detail 405 "Method Not Allowed"

def invalid (faults : List Fault) : Response :=
  ⟨422, .obj [("detail", .arr (faults.map Fault.toJson))]⟩

/-- The answer when something fails that is not provided for. -/
def failure : Response := ⟨500, .str "Internal Server Error"⟩

end Response

namespace Request

/-- The value in the body.  An empty body and `null` count as none. -/
def value (q : Request) : Checked Json :=
  let text := q.body.getD ""
  if text.isEmpty then .fail .missing
  else
    let text := if text.toList.head? = some '\ufeff' then String.ofList (text.toList.drop 1) else text
    match Json.read text with
    | .error position => .faulty [⟨[.index position], .malformedJson⟩]
    | .ok .null => .fail .missing
    | .ok v => .ok v

/-- The message in the body. -/
def message {α : Type} (q : Request) (shape : Shape α) : Checked α :=
  (q.value.andThen shape).under (.field "body")

end Request
end SchemaLineage
