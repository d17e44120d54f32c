import SchemaLineage.Extraction.Reading
import SchemaLineage.Extraction.Seconds
import SchemaLineage.Lineage.Resolution
import SchemaLineage.View.Analysis
/-
A pass over a schema: its tables, its views with the lineage of their columns, its types, and what
was left out.

A table whose rows contradict each other is skipped, a view whose definition cannot be read keeps its
own columns, and both are reported as issues.  A question that the catalog cannot answer and views
that read each other in a circle end the pass without a result.
-/

namespace SchemaLineage

inductive ExtractionError where
  | catalog (fault : CatalogFault)
  | unknownDialect (name : String)
  | cycle (c : ViewCycle)
  | timeout (schemaName : String) (limit : Seconds)
  deriving DecidableEq, Repr

namespace Issue

def skipped (ref : RelationRef) (m : Mismatch) : Issue :=
  { kind := .skippedRelation
    relation := ref.qualifiedName
    message := "skipped: " ++ ref.qualifiedName ++ ": " ++ m.message }

def degraded (ref : RelationRef) (f : DefinitionFault) : Issue :=
  { kind := .degradedView
    relation := ref.qualifiedName
    message := "columns left unresolved: " ++ ref.qualifiedName ++ ": " ++ f.message }

/-- A column whose reference is not the whole truth. -/
def ambiguous? (ref : RelationRef) (c : Column) : Option Issue :=
  (c.reference.filter (·.ambiguous)).map fun k =>
    { kind := .ambiguousReference
      relation := ref.qualifiedName
      column := some c.name
      message := "column " ++ c.name ++
        " is part of a multi-column or overlapping foreign key; using " ++ k.tableName ++ "." ++
        k.columnName }

def ofTable (t : RelationRef × Except Mismatch Table) : List Issue :=
  match t.2 with
  | .error m => [skipped t.1 m]
  | .ok table => table.columns.filterMap (ambiguous? t.1)

end Issue

namespace CustomType

def ofRow (r : TypeRow) : CustomType :=
  { name := r.name
    schemaName := r.schemaName
    kind := r.kind
    labels := r.labels
    baseType := (r.baseType.filter fun b => !b.isEmpty).map fun b => TypeName.normalize (some b)
    remarks := Remarks.ofComment? r.comment }

end CustomType

namespace Reading

/-- A view with the analysis of its definition, or with the reason why there is none. -/
def analyzed (r : Reading) (dialect : Sql.Language) (s : ViewSource) :
    Except ExtractionError (ViewSource × List Issue) :=
  match analyzeView r.known s.ref dialect s.definition with
  | .ok a => .ok ({ s with analysis := some a }, [])
  | .error (.definition f) => .ok (s, [.degraded s.ref f])
  | .error (.unknownDialect name) => .error (.unknownDialect name)

/-- The views with their columns followed to the tables. -/
def resolvedViews (r : Reading) (views : List ViewSource) : Except ExtractionError (List View) :=
  match ((Inventory.mk r.built views).resolveAll.run.run []).1 with
  | .ok made => .ok (made.filterMap TableOrView.view?)
  | .error c => .error (.cycle c)

/-- The views, and the issues met with them. -/
def viewsWithIssues (r : Reading) (dialect : Sql.Language) (resolve : Bool) :
    Except ExtractionError (List View × List Issue) :=
  if resolve then do
    let analyses ← r.views.mapM (r.analyzed dialect)
    return (← r.resolvedViews (analyses.map (·.1)), analyses.flatMap (·.2))
  else .ok (r.views.map View.untraced, [])

end Reading

namespace Catalog

/-- One pass, however long it takes. -/
def pass (c : Catalog) (schemaName : String) (resolveViews : Bool) :
    Except ExtractionError Extraction := do
  let reading ← (c.read schemaName).mapError .catalog
  let (views, issues) ← reading.viewsWithIssues c.dialect resolveViews
  return {
    schema := {
      name := schemaName
      tables := reading.built.map (·.2)
      views := views
      types := reading.types.map CustomType.ofRow }
    issues := reading.tables.flatMap Issue.ofTable ++ issues }

/-- A pass that is given up when the catalog keeps it waiting for longer than the limit. -/
def extract (c : Catalog) (schemaName : String) (resolveViews : Bool) (limit : Option Seconds) :
    Except ExtractionError Extraction :=
  match c.pass schemaName resolveViews, limit.filter Seconds.isLimit with
  | .error (.catalog .silent), some s => .error (.timeout schemaName s)
  | result, _ => result

end Catalog

namespace ExtractionError

def message : ExtractionError → String
  | catalog (.unavailable text) => text
  | catalog (.missingKey name) => Text.quoted name
  | catalog (.malformedRow faults) => " ".intercalate (faults.map fun f => f.cause.message)
  | catalog .silent => "no answer"
  | unknownDialect name => "Unknown dialect '" ++ name ++ "'."
  | cycle c => c.message
  | timeout schemaName limit =>
    "Extraction of schema " ++ Text.quoted schemaName ++ " exceeded " ++ limit.text ++ "s"

end ExtractionError
end SchemaLineage
