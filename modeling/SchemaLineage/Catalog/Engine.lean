import SchemaLineage.Catalog.Basic
import SchemaLineage.Json.Literal
/-
A catalog over the answers of a database driver.

Every question to the driver may fail; the first failure in the order of asking makes the whole answer
unavailable, with the driver's text and what was asked for.  What the driver describes, a column for
example, comes as an object; a description without one of the keys it needs is refused.
-/

namespace SchemaLineage

inductive DriverFault where
  | failed (text : String)
  /-- No answer comes. -/
  | silent
  deriving DecidableEq, Repr

abbrev Probe := Except DriverFault

/-- Why no connection is opened.  Whoever waits for one that is neither opened nor refused gets no
answer at all, so waiting is none of the reasons. -/
inductive ConnectFault where
  /-- The database is not there or does not let in. -/
  | failed (text : String)
  /-- Another fault of the driver, at an option that it does not know for example. -/
  | other (text : String)
  deriving DecidableEq, Repr

/-- Among the questions of a catalog the two are not told apart. -/
def ConnectFault.driverFault : ConnectFault → DriverFault
  | failed text => .failed text
  | other text => .failed text

/-- A database as its driver shows it.  Questions about a relation take its schema and its name. -/
structure Engine where
  /-- The driver's name for the kind of database. -/
  dialect : String
  defaultSchema : Option String := none
  /-- Open a connection. -/
  connect : Except ConnectFault Unit
  /-- Prepare the questions that follow. -/
  inspect : Probe Unit
  tableNames : String → Probe (List String)
  viewNames : String → Probe (List String)
  /-- The materialized views, where the kind of database has them. -/
  materializedNames : String → Probe (Option (List String))
  /-- The tables that are parts of other tables. -/
  partitions : String → Probe (List String)
  columns : String → String → Probe (List Json)
  primaryKey : String → String → Probe Json
  foreignKeys : String → String → Probe (List Json)
  definition : String → String → Probe (Option String)
  /-- The comment on a relation; where the kind of database has none it is absent. -/
  comment : String → String → Probe (Option String)
  enumerations : String → Probe (List Json)
  domains : String → Probe (List Json)
  typeComments : String → Probe (List (String × Option String))
  /-- How definitions are read, whatever their language is. -/
  reader : Sql.Reader := Sql.reader

namespace Engine

/-- The names under which kinds of databases are known as languages, where they differ. -/
def languages : List (String × String) := [("postgresql", "postgres")]

def language (e : Engine) : String := (languages.lookup e.dialect).getD e.dialect

def isPostgres (e : Engine) : Bool := e.dialect = "postgresql"

/-- A connection for a question. -/
def opened (e : Engine) : Probe Unit := e.connect.mapError ConnectFault.driverFault

/-- An answer of the driver, or why there is none. -/
def ask {α : Type} (what : String) (p : Probe α) : Reply α :=
  p.mapError fun
    | .failed text => .unavailable ("Catalog query failed (" ++ what ++ "): " ++ text)
    | .silent => .silent

/-- The value of a key that a description must have. -/
def key (description : Json) (name : String) : Reply Json :=
  match description.get? name with
  | some v => .ok v
  | none => .error (.missingKey name)

/-- The value of a key that a description may leave out. -/
def option (description : Json) (name : String) : Json := (description.get? name).getD .null

def checked {α : Type} (c : Checked α) : Reply α := c.toExcept.mapError .malformedRow

/-- The first of the values that counts as present, or else the last. -/
def orElse (v : Json) (other : Json) : Json := if v.isTruthy then v else other

def listing (e : Engine) (schemaName : String) :
    Probe (List String × List String × List String) := do
  e.inspect
  let tables ← e.tableNames schemaName
  let partitions ← if e.isPostgres then do e.opened; e.partitions schemaName else pure []
  let views ← e.viewNames schemaName
  let materialized ← e.materializedNames schemaName
  return (tables.filter (· ∉ partitions), views, materialized.getD [])

def relations (e : Engine) (schemaName : String) : Reply (List RelationRef) := do
  let (tables, views, materialized) ← ask ("list relations in " ++ schemaName) (e.listing schemaName)
  return tables.map (⟨schemaName, ·, .table⟩) ++ views.map (⟨schemaName, ·, .view⟩) ++
    materialized.map (⟨schemaName, ·, .materializedView⟩)

/-- The row of a column that is described at a position. -/
def columnRow (position : Nat) (column : Json) : Reply ColumnRow := do
  let name ← key column "name"
  let type ← key column "type"
  let nullable := (column.get? "nullable").getD (.bool true)
  let default :=
    match option column "default" with
    | .null => .null
    | v => .str v.plainText
  checked (ColumnRow.ofJson (.obj [
    ("name", name), ("ordinal_position", .int position), ("data_type", type),
    ("is_not_null", .bool !nullable.isTruthy), ("default", default),
    ("comment", option column "comment")]))

def columnRows (e : Engine) (ref : RelationRef) : Reply (List ColumnRow) := do
  let columns ← ask ("columns of " ++ ref.qualifiedName) do
    e.inspect
    e.columns ref.schemaName ref.name
  (columns.zipIdx 1).mapM fun c => columnRow c.2 c.1

/-- A primary key without columns is none. -/
def primaryKeyRow (description : Json) : Reply (List ConstraintRow) :=
  if (option description "constrained_columns").isTruthy then do
    return [← checked (ConstraintRow.ofJson (.obj [
      ("name", option description "name"), ("kind", .str ConstraintKind.primaryKey.word),
      ("columns", option description "constrained_columns")]))]
  else .ok []

/-- A key without a schema refers to the default one, or else to the schema of its own table. -/
def foreignKeyRow (e : Engine) (ref : RelationRef) (description : Json) : Reply ConstraintRow := do
  let options := option description "options"
  let columns ← key description "constrained_columns"
  let schemaName :=
    orElse (option description "referred_schema")
      (orElse (Json.text? e.defaultSchema) (.str ref.schemaName))
  let table ← key description "referred_table"
  let referred ← key description "referred_columns"
  checked (ConstraintRow.ofJson (.obj [
    ("name", option description "name"), ("kind", .str ConstraintKind.foreignKey.word),
    ("columns", columns), ("referred_schema", schemaName), ("referred_table", table),
    ("referred_columns", referred), ("on_delete", option options "ondelete"),
    ("on_update", option options "onupdate")]))

def constraintRows (e : Engine) (ref : RelationRef) : Reply (List ConstraintRow) := do
  let (primary, foreign) ← ask ("constraints of " ++ ref.qualifiedName) do
    e.inspect
    let primary ← e.primaryKey ref.schemaName ref.name
    let foreign ← e.foreignKeys ref.schemaName ref.name
    return (primary, foreign)
  return (← primaryKeyRow primary) ++ (← foreign.mapM (e.foreignKeyRow ref))

def definitionText (e : Engine) (ref : RelationRef) : Reply (Option String) :=
  ask ("definition of " ++ ref.qualifiedName) do
    e.inspect
    e.definition ref.schemaName ref.name

def commentText (e : Engine) (ref : RelationRef) : Reply (Option String) :=
  ask ("comment of " ++ ref.qualifiedName) do
    e.inspect
    e.comment ref.schemaName ref.name

/-- The comment on a type; of several with its name the last one counts. -/
def typeComment (comments : List (String × Option String)) (name : Json) : Json :=
  Json.text? (name.string?.bind fun n => (comments.reverse.lookup n).join)

def enumerationRow (schemaName : String) (comments : List (String × Option String))
    (description : Json) : Reply TypeRow := do
  let name ← key description "name"
  checked (TypeRow.ofJson (.obj [
    ("name", name),
    ("schema_name", orElse (option description "schema") (.str schemaName)),
    ("kind", .str TypeKind.enumeration.word),
    ("labels", orElse (option description "labels") (.arr [])),
    ("comment", typeComment comments name)]))

def domainRow (schemaName : String) (comments : List (String × Option String))
    (description : Json) : Reply TypeRow := do
  let name ← key description "name"
  let base :=
    match option description "type" with
    | .null => .null
    | v => .str v.plainText
  checked (TypeRow.ofJson (.obj [
    ("name", name),
    ("schema_name", orElse (option description "schema") (.str schemaName)),
    ("kind", .str TypeKind.domain.word),
    ("base_type", base),
    ("comment", typeComment comments name)]))

/-- Only one kind of database is asked for types. -/
def typeRows (e : Engine) (schemaName : String) : Reply (List TypeRow) :=
  if !e.isPostgres then .ok []
  else do
    let (enumerations, domains, comments) ← ask ("types in " ++ schemaName) do
      e.inspect
      let enumerations ← e.enumerations schemaName
      let domains ← e.domains schemaName
      e.opened
      let comments ← e.typeComments schemaName
      return (enumerations, domains, comments)
    return (← enumerations.mapM (enumerationRow schemaName comments)) ++
      (← domains.mapM (domainRow schemaName comments))

def catalog (e : Engine) : Catalog where
  dialect := .ofReader e.reader e.language
  relations := e.relations
  types := e.typeRows
  columns := e.columnRows
  constraints := e.constraintRows
  comment := e.commentText
  definition := e.definitionText

end Engine
end SchemaLineage
