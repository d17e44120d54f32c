import SchemaLineage.Schema.Basic
/-
A table from the rows in which the catalog describes it.

The rows are refused when they contradict each other, and then the first contradiction is reported:
a name that two columns share, or else a constraint over columns that are not there.
-/

namespace SchemaLineage

/-- A contradiction between the rows of one relation. -/
inductive Mismatch where
  | repeatedColumn (name : String)
  | unknownColumns (label : String) (columns : List String)
  deriving DecidableEq, Repr

namespace Mismatch

def message : Mismatch → String
  | repeatedColumn name => "column " ++ name ++ " reported more than once"
  | unknownColumns label columns =>
    "constraint " ++ label ++ " references unknown column(s) " ++ ", ".intercalate columns

end Mismatch

namespace ConstraintRow

/-- How a constraint is spoken of: by its name, or by its kind when it has none. -/
def label (k : ConstraintRow) : String :=
  match k.name with
  | some n => if n.isEmpty then k.kind.word else n
  | none => k.kind.word

def unknownColumns (known : List String) (k : ConstraintRow) : List String :=
  k.columns.filter fun c => !known.contains c

end ConstraintRow

namespace ForeignKeyAction

open Text

/-- The action a catalog names, in any case and spacing; any other text means no action. -/
def ofText (raw : Option String) : ForeignKeyAction :=
  let name := String.ofList (collapse (upper (raw.getD "").toList))
  (words.lookup name).getD .noAction

end ForeignKeyAction

namespace Table

/-- The first name that was already seen. -/
def firstRepeated (seen : List String) : List String → Option String
  | [] => none
  | n :: ns => if n ∈ seen then some n else firstRepeated (n :: seen) ns

def firstUnknown (known : List String) : List ConstraintRow → Option Mismatch
  | [] => none
  | k :: ks =>
    match k.unknownColumns known with
    | [] => firstUnknown known ks
    | missing => some (.unknownColumns k.label missing)

/-- What is wrong with the rows, if anything is. -/
def mismatch? (rows : List ColumnRow) (constraints : List ConstraintRow) : Option Mismatch :=
  let names := rows.map (·.name)
  match firstRepeated [] names with
  | some n => some (.repeatedColumn n)
  | none => firstUnknown names constraints

/-- The foreign keys that constrain a column, each with the column's place in it. -/
def hits (name : String) (keys : List ConstraintRow) : List (ConstraintRow × Nat) :=
  keys.flatMap fun k => k.columns.zipIdx.filterMap fun c => if c.1 = name then some (k, c.2) else none

/-- The first key that constrains a column decides where it points.  The reference is ambiguous when
that key spans several columns or another key constrains the column too. -/
def reference? (schemaName : String) (hits : List (ConstraintRow × Nat)) : Option ForeignKey :=
  match hits with
  | [] => none
  | (k, place) :: more =>
    match k.referredTable, k.referredColumns[place]? with
    | some table, some column =>
      if table.isEmpty then none
      else
        some {
          schemaName := (k.referredSchema.filter fun s => !s.isEmpty).getD schemaName
          tableName := table
          columnName := column
          onDelete := .ofText k.onDelete
          onUpdate := .ofText k.onUpdate
          constraintName := k.name
          ambiguous := !more.isEmpty || 1 < k.columns.length }
    | _, _ => none

def isForeignKey (k : ConstraintRow) : Bool := k.kind = .foreignKey

def isPrimary (constraints : List ConstraintRow) (name : String) : Bool :=
  constraints.any fun k => k.kind = .primaryKey && k.columns.contains name

/-- A column from its row and the constraints of its table. -/
def column (schemaName : String) (constraints : List ConstraintRow) (row : ColumnRow) : Column :=
  { name := row.name
    ordinalPosition := row.ordinalPosition
    dataType := TypeName.normalize row.dataType
    nullable := !row.isNotNull
    isPrimary := isPrimary constraints row.name
    defaultText := row.defaultText
    remarks := Remarks.ofComment? row.comment
    reference := reference? schemaName (hits row.name (constraints.filter isForeignKey)) }

def ofRows (ref : RelationRef) (rows : List ColumnRow) (constraints : List ConstraintRow)
    (comment : Option String) : Except Mismatch Table :=
  let rows := ColumnRow.inOrder rows
  match mismatch? rows constraints with
  | some m => .error m
  | none =>
    .ok {
      name := ref.name
      schemaName := ref.schemaName
      columns := rows.map (column ref.schemaName constraints)
      remarks := Remarks.ofComment? comment }

end Table
end SchemaLineage
