import SchemaLineage.Relation
/-
What is known of a view's query: the relations it reads and where each of its columns comes from.
-/

namespace SchemaLineage

inductive Projection where
  /-- Exactly one column of one relation, perhaps under another name. -/
  | direct (source : RelationRef) (sourceColumn outputName : String)
  /-- All columns of a relation, or of something that is none. -/
  | wildcard (source : Option RelationRef)
  /-- Any other expression, whose columns cannot be followed. -/
  | untraced (outputName : String)
  deriving DecidableEq, Repr

namespace Projection

def outputName : Projection → Option String
  | direct _ _ name => some name
  | wildcard _ => none
  | untraced name => some name

def source : Projection → Option RelationRef
  | direct source _ _ => some source
  | wildcard source => source
  | untraced _ => none

def toJson : Projection → Json
  | direct source column name =>
    .obj [("kind", .str "direct"), ("source", source.toJson), ("source_column", .str column),
      ("output_name", .str name)]
  | wildcard source =>
    .obj [("kind", .str "wildcard"), ("source", Json.optional (source.map RelationRef.toJson))]
  | untraced name => .obj [("kind", .str "opaque"), ("output_name", .str name)]

end Projection

/-- The relations that a view reads, those of its `FROM` clause first, and one projection for each
item of its `SELECT` clause. -/
structure ViewAnalysis where
  sources : List RelationRef := []
  projections : List Projection := []
  deriving DecidableEq, Repr

namespace ViewAnalysis

def toJson (a : ViewAnalysis) : Json :=
  .obj [("sources", .arr (a.sources.map RelationRef.toJson)),
    ("projections", .arr (a.projections.map Projection.toJson))]

end ViewAnalysis
end SchemaLineage
