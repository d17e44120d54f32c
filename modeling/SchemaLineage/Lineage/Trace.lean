import SchemaLineage.Lineage.Inventory
/-
The columns of a view, given the relations it reads.

Every column of the result is a row of the catalog.  The analysis only tells which column of another
relation a row copies; type, nullability, key membership and reference are taken from there.  A row
whose origin is not known is nullable, is no key and refers to nothing.
-/

namespace SchemaLineage

/-- A column of a query's result: its name and the column it copies, if it copies one. -/
structure Output where
  name : String
  origin : Option (RelationRef × String) := none
  deriving DecidableEq, Repr

namespace Output

/-- The columns of a relation, taken over one by one. -/
def ofRelation (ref : RelationRef) (columns : List Column) : List Output :=
  columns.map fun c => ⟨c.name, some (ref, c.name)⟩

/-- One output for each row.  Positions are to be trusted when every item of the query could be
expanded and the counts agree, which also covers views that rename their columns; otherwise a row
takes the first output with its name. -/
def pair (rows : List ColumnRow) (items : List (Option (List Output))) :
    List (ColumnRow × Output) :=
  let outputs := (items.filterMap id).flatten
  if items.all (·.isSome) && outputs.length = rows.length then rows.zip outputs
  else rows.map fun r => (r, (outputs.find? fun o => o.name = r.name).getD ⟨r.name, none⟩)

end Output

namespace Column

def untraced (row : ColumnRow) : Column :=
  { name := row.name
    ordinalPosition := row.ordinalPosition
    dataType := TypeName.normalize row.dataType
    nullable := true
    isPrimary := false
    defaultText := row.defaultText
    remarks := Remarks.ofComment? row.comment }

def traced (row : ColumnRow) (origin : Column) : Column :=
  { name := row.name
    ordinalPosition := row.ordinalPosition
    dataType := origin.dataType
    nullable := origin.nullable
    isPrimary := origin.isPrimary
    defaultText := row.defaultText
    remarks := Remarks.ofComment? row.comment
    reference := origin.reference }

end Column

namespace View

/-- A view with the given columns; all else comes from its source. -/
def ofColumns (s : ViewSource) (columns : List Column) : View :=
  { name := s.ref.name
    schemaName := s.ref.schemaName
    columns := columns
    remarks := Remarks.ofComment? s.comment
    isMaterialized := s.ref.kind = .materializedView
    dependsOn := s.sources
    definition := s.definition }

def untraced (s : ViewSource) : View := ofColumns s (s.orderedRows.map Column.untraced)

section

variable {m : Type → Type} [Monad m] (find : RelationRef → m (Option TableOrView))

/-- What an item of the query stands for; nothing is known when its relation is not found. -/
def outputsOf : Projection → m (Option (List Output))
  | .direct source column name => pure (some [⟨name, some (source, column)⟩])
  | .untraced name => pure (some [⟨name, none⟩])
  | .wildcard none => pure none
  | .wildcard (some source) => do
    return (← find source).map fun r => Output.ofRelation source r.columns

def columnOf (row : ColumnRow) (output : Output) : m Column :=
  match output.origin with
  | none => pure (.untraced row)
  | some (source, column) => do
    match (← find source).bind fun r => r.toRelation.column? column with
    | some c => return .traced row c
    | none => return .untraced row

/-- A view from its source; `find` gives the relations that it reads. -/
def ofSource (s : ViewSource) : m View :=
  match s.analysis with
  | none => pure (untraced s)
  | some a => do
    let items ← a.projections.mapM (outputsOf find)
    return ofColumns s (← (Output.pair s.orderedRows items).mapM fun p => columnOf find p.1 p.2)

end
end View
end SchemaLineage
