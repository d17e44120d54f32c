import SchemaLineage.Schema.Rows
import SchemaLineage.View.Projection
/-
The relations of one pass over a schema: tables that are built, and views of which only the
catalog's rows and the analysis of their queries are known.
-/

namespace SchemaLineage

/-- What is known of a view.  Without an analysis none of its columns can be followed. -/
structure ViewSource where
  ref : RelationRef
  rows : List ColumnRow
  comment : Option String := none
  definition : Option String := none
  analysis : Option ViewAnalysis := none
  deriving DecidableEq, Repr

namespace ViewSource

def orderedRows (s : ViewSource) : List ColumnRow := ColumnRow.inOrder s.rows

def columnNames (s : ViewSource) : List String := s.orderedRows.map (·.name)

/-- The relations that the view declares to read. -/
def sources (s : ViewSource) : List RelationRef := (s.analysis.map (·.sources)).getD []

end ViewSource

/-- Of entries for the same relation the last one counts. -/
structure Inventory where
  tables : List (RelationRef × Table)
  views : List ViewSource

namespace Inventory

def table? (i : Inventory) (ref : RelationRef) : Option Table :=
  i.tables.reverse.lookup ref

def view? (i : Inventory) (ref : RelationRef) : Option ViewSource :=
  i.views.reverse.find? fun s => s.ref = ref

/-- The views in the order in which they are first listed. -/
def viewRefs (i : Inventory) : List RelationRef := (i.views.map (·.ref)).eraseDups

theorem mem_of_view? {i : Inventory} {ref : RelationRef} {s : ViewSource}
    (h : i.view? ref = some s) : s ∈ i.views ∧ s.ref = ref :=
  ⟨List.mem_reverse.mp (List.mem_of_find?_eq_some h), by simpa using List.find?_some h⟩

end Inventory
end SchemaLineage
