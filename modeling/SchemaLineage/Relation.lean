import SchemaLineage.Validation.Shape
/-
The identity of a table or view, under which its rows are kept and by which views refer to it.
-/

namespace SchemaLineage

inductive RelationKind where
  | table
  | view
  | materializedView
  deriving DecidableEq, Repr

namespace RelationKind

def words : List (String × RelationKind) :=
  [("table", table), ("view", view), ("materialized_view", materializedView)]

def word : RelationKind → String
  | table => "table"
  | view => "view"
  | materializedView => "materialized_view"

theorem lookup_word (k : RelationKind) : words.lookup k.word = some k := by cases k <;> rfl

end RelationKind

/-- Two relations of one schema may share a name if they differ in kind. -/
structure RelationRef where
  schemaName : String
  name : String
  kind : RelationKind := .table
  deriving DecidableEq, Repr

namespace RelationRef

def qualifiedName (r : RelationRef) : String := r.schemaName ++ "." ++ r.name

def isView (r : RelationRef) : Bool := r.kind != .table

def toJson (r : RelationRef) : Json :=
  .obj [("schema_name", .str r.schemaName), ("name", .str r.name), ("kind", .str r.kind.word)]

def ofJson : Shape RelationRef :=
  Shape.record "RelationRef" fun ms =>
    RelationRef.mk
      <$> Shape.required "schema_name" Shape.text ms
      <*> Shape.required "name" Shape.text ms
      <*> Shape.withDefault "kind" .table (Shape.choice RelationKind.words) ms

theorem ofJson_toJson (r : RelationRef) : ofJson r.toJson = .ok r := by
  obtain ⟨s, n, k⟩ := r
  cases k <;> rfl

end RelationRef
end SchemaLineage
