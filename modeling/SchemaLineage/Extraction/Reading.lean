import SchemaLineage.Association
import SchemaLineage.Catalog.Basic
import SchemaLineage.Lineage.Inventory
import SchemaLineage.View.Scope
/-
What a pass reads from the catalog: the relations of a schema in the order of its listing, each with
its rows, and its types.

The tables are read at the same time, and after them the views.
-/

namespace SchemaLineage

structure Reading where
  /-- Each table, or why its rows make none. -/
  tables : List (RelationRef × Except Mismatch Table)
  views : List ViewSource
  types : List TypeRow

namespace Catalog

def table (c : Catalog) (ref : RelationRef) : Reply (RelationRef × Except Mismatch Table) := do
  let rows ← c.columns ref
  let constraints ← c.constraints ref
  let comment ← c.comment ref
  return (ref, Table.ofRows ref rows constraints comment)

def view (c : Catalog) (ref : RelationRef) : Reply ViewSource := do
  let rows ← c.columns ref
  let comment ← c.comment ref
  let definition ← c.definition ref
  return { ref, rows, comment, definition }

def read (c : Catalog) (schemaName : String) : Reply Reading := do
  let refs ← c.relations schemaName
  let types ← c.types schemaName
  let tables ← Reply.together ((refs.filter fun r => !r.isView).map c.table)
  let views ← Reply.together ((refs.filter fun r => r.isView).map c.view)
  return { tables, views, types }

end Catalog

namespace Reading

/-- The tables that could be built. -/
def built (r : Reading) : List (RelationRef × Table) :=
  keyed (r.tables.filterMap fun t => t.2.toOption.map fun table => (t.1, table))

/-- The relations that definitions may speak of. -/
def known (r : Reading) : KnownRelations :=
  keyed (r.built.map (fun t => (t.1, t.2.columns.map (·.name))) ++
    r.views.map fun v => (v.ref, v.columnNames))

end Reading
end SchemaLineage
