import SchemaLineage.Relation
/-
The rows in which a database's catalog describes columns, constraints and types.
-/

namespace SchemaLineage

structure ColumnRow where
  name : String
  ordinalPosition : Int
  dataType : Option String := none
  isNotNull : Bool := false
  defaultText : Option String := none
  comment : Option String := none
  deriving DecidableEq, Repr

namespace ColumnRow

def toJson (r : ColumnRow) : Json :=
  .obj [("name", .str r.name), ("ordinal_position", .int r.ordinalPosition),
    ("data_type", Json.text? r.dataType), ("is_not_null", .bool r.isNotNull),
    ("default", Json.text? r.defaultText), ("comment", Json.text? r.comment)]

def ofJson : Shape ColumnRow :=
  Shape.record "RawColumnRow" fun ms =>
    ColumnRow.mk
      <$> Shape.required "name" Shape.text ms
      <*> Shape.required "ordinal_position" Shape.integer ms
      <*> Shape.withDefault "data_type" none (Shape.nullable Shape.text) ms
      <*> Shape.withDefault "is_not_null" false Shape.truth ms
      <*> Shape.withDefault "default" none (Shape.nullable Shape.text) ms
      <*> Shape.withDefault "comment" none (Shape.nullable Shape.text) ms

/-- The rows by ordinal position; rows that share one keep their order. -/
def inOrder (rows : List ColumnRow) : List ColumnRow :=
  rows.mergeSort fun a b => a.ordinalPosition ≤ b.ordinalPosition

theorem inOrder_perm (rows : List ColumnRow) : (inOrder rows).Perm rows := List.mergeSort_perm ..

end ColumnRow

inductive ConstraintKind where
  | primaryKey
  | foreignKey
  deriving DecidableEq, Repr

namespace ConstraintKind

def words : List (String × ConstraintKind) :=
  [("primary_key", primaryKey), ("foreign_key", foreignKey)]

def word : ConstraintKind → String
  | primaryKey => "primary_key"
  | foreignKey => "foreign_key"

end ConstraintKind

structure ConstraintRow where
  name : Option String := none
  kind : ConstraintKind
  columns : List String
  referredSchema : Option String := none
  referredTable : Option String := none
  referredColumns : List String := []
  onDelete : Option String := none
  onUpdate : Option String := none
  deriving DecidableEq, Repr

namespace ConstraintRow

def toJson (r : ConstraintRow) : Json :=
  .obj [("name", Json.text? r.name), ("kind", .str r.kind.word),
    ("columns", .arr (r.columns.map .str)), ("referred_schema", Json.text? r.referredSchema),
    ("referred_table", Json.text? r.referredTable),
    ("referred_columns", .arr (r.referredColumns.map .str)),
    ("on_delete", Json.text? r.onDelete), ("on_update", Json.text? r.onUpdate)]

def ofJson : Shape ConstraintRow :=
  Shape.record "RawConstraintRow" fun ms =>
    ConstraintRow.mk
      <$> Shape.withDefault "name" none (Shape.nullable Shape.text) ms
      <*> Shape.required "kind" (Shape.choice ConstraintKind.words) ms
      <*> Shape.required "columns" (Shape.list Shape.text) ms
      <*> Shape.withDefault "referred_schema" none (Shape.nullable Shape.text) ms
      <*> Shape.withDefault "referred_table" none (Shape.nullable Shape.text) ms
      <*> Shape.withDefault "referred_columns" [] (Shape.list Shape.text) ms
      <*> Shape.withDefault "on_delete" none (Shape.nullable Shape.text) ms
      <*> Shape.withDefault "on_update" none (Shape.nullable Shape.text) ms

end ConstraintRow

inductive TypeKind where
  | enumeration
  | domain
  deriving DecidableEq, Repr

namespace TypeKind

def words : List (String × TypeKind) := [("enum", enumeration), ("domain", domain)]

def word : TypeKind → String
  | enumeration => "enum"
  | domain => "domain"

theorem lookup_word (k : TypeKind) : words.lookup k.word = some k := by cases k <;> rfl

end TypeKind

structure TypeRow where
  name : String
  schemaName : String
  kind : TypeKind := .enumeration
  labels : List String := []
  baseType : Option String := none
  comment : Option String := none
  deriving DecidableEq, Repr

namespace TypeRow

def toJson (r : TypeRow) : Json :=
  .obj [("name", .str r.name), ("schema_name", .str r.schemaName), ("kind", .str r.kind.word),
    ("labels", .arr (r.labels.map .str)), ("base_type", Json.text? r.baseType),
    ("comment", Json.text? r.comment)]

def ofJson : Shape TypeRow :=
  Shape.record "RawTypeRow" fun ms =>
    TypeRow.mk
      <$> Shape.required "name" Shape.text ms
      <*> Shape.required "schema_name" Shape.text ms
      <*> Shape.withDefault "kind" .enumeration (Shape.choice TypeKind.words) ms
      <*> Shape.withDefault "labels" [] (Shape.list Shape.text) ms
      <*> Shape.withDefault "base_type" none (Shape.nullable Shape.text) ms
      <*> Shape.withDefault "comment" none (Shape.nullable Shape.text) ms

end TypeRow
end SchemaLineage
