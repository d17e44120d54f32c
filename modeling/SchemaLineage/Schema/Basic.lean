import SchemaLineage.Catalog.Row
import SchemaLineage.Remarks
import SchemaLineage.TypeName
/-
A database schema: tables, views and types, with what their columns refer to, and the issues met
while it was read.
-/

namespace SchemaLineage

inductive ForeignKeyAction where
  | noAction
  | cascade
  | setNull
  | setDefault
  | restrict
  deriving DecidableEq, Repr

namespace ForeignKeyAction

def words : List (String × ForeignKeyAction) :=
  [("NO ACTION", noAction), ("CASCADE", cascade), ("SET NULL", setNull),
   ("SET DEFAULT", setDefault), ("RESTRICT", restrict)]

def word : ForeignKeyAction → String
  | noAction => "NO ACTION"
  | cascade => "CASCADE"
  | setNull => "SET NULL"
  | setDefault => "SET DEFAULT"
  | restrict => "RESTRICT"

theorem lookup_word (a : ForeignKeyAction) : words.lookup a.word = some a := by cases a <;> rfl

end ForeignKeyAction

/-- The column that a foreign key points a column to.  It is ambiguous when other keys or columns
take part. -/
structure ForeignKey where
  schemaName : String
  tableName : String
  columnName : String
  onDelete : ForeignKeyAction := .noAction
  onUpdate : ForeignKeyAction := .noAction
  constraintName : Option String := none
  ambiguous : Bool := false
  deriving DecidableEq, Repr

structure Column where
  name : String
  ordinalPosition : Int
  dataType : String := TypeName.unknown
  nullable : Bool := true
  isPrimary : Bool := false
  defaultText : Option String := none
  remarks : Option Remarks := none
  reference : Option ForeignKey := none
  deriving DecidableEq, Repr

/-- What tables and views have in common. -/
structure Relation where
  name : String
  schemaName : String
  columns : List Column := []
  remarks : Option Remarks := none
  deriving DecidableEq, Repr

namespace Relation

def column? (r : Relation) (name : String) : Option Column :=
  r.columns.find? fun c => c.name == name

end Relation

structure Table extends Relation where
  deriving DecidableEq, Repr

structure View extends Relation where
  isMaterialized : Bool := false
  dependsOn : List RelationRef := []
  definition : Option String := none
  deriving DecidableEq, Repr

structure CustomType where
  name : String
  schemaName : String
  kind : TypeKind := .enumeration
  labels : List String := []
  baseType : Option String := none
  remarks : Option Remarks := none
  deriving DecidableEq, Repr

structure Schema where
  name : String
  tables : List Table := []
  views : List View := []
  types : List CustomType := []
  deriving DecidableEq, Repr

/-- A table or a view, where both may stand. -/
inductive TableOrView where
  | table (t : Table)
  | view (v : View)
  deriving DecidableEq, Repr

namespace TableOrView

def toRelation : TableOrView → Relation
  | table t => t.toRelation
  | view v => v.toRelation

def columns (r : TableOrView) : List Column := r.toRelation.columns

def view? : TableOrView → Option View
  | table _ => none
  | view v => some v

end TableOrView

namespace Schema

/-- Tables are searched before views. -/
def relation? (s : Schema) (name : String) : Option TableOrView :=
  (s.tables.map TableOrView.table ++ s.views.map TableOrView.view).find?
    fun r => r.toRelation.name == name

end Schema

inductive IssueKind where
  | skippedRelation
  | degradedView
  | ambiguousReference
  deriving DecidableEq, Repr

namespace IssueKind

def words : List (String × IssueKind) :=
  [("skipped_relation", skippedRelation), ("degraded_view", degradedView),
   ("ambiguous_reference", ambiguousReference)]

def word : IssueKind → String
  | skippedRelation => "skipped_relation"
  | degradedView => "degraded_view"
  | ambiguousReference => "ambiguous_reference"

theorem lookup_word (k : IssueKind) : words.lookup k.word = some k := by cases k <;> rfl

end IssueKind

/-- Something that keeps the schema from being complete without making it useless. -/
structure Issue where
  kind : IssueKind
  /-- The qualified name of the relation it concerns. -/
  relation : String
  column : Option String := none
  message : String
  deriving DecidableEq, Repr

structure Extraction where
  schema : Schema
  issues : List Issue := []
  deriving DecidableEq, Repr

end SchemaLineage
