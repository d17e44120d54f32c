import SchemaLineage.Validation.Shape
/-
Connections to databases, as clients ask for them and as the service lists them.
-/

namespace SchemaLineage

inductive DatabaseKind where
  | sqlite
  | postgresql
  deriving DecidableEq, Repr

namespace DatabaseKind

def words : List (String × DatabaseKind) := [("sqlite", sqlite), ("postgresql", postgresql)]

def word : DatabaseKind → String
  | sqlite => "sqlite"
  | postgresql => "postgresql"

theorem lookup_word (k : DatabaseKind) : words.lookup k.word = some k := by cases k <;> rfl

end DatabaseKind

/-- Where a database is and how to enter it.  A file needs only its path, a server all the rest. -/
structure Connection where
  kind : DatabaseKind
  /-- The name under which the connection is kept. -/
  serviceName : String
  filePath : Option String := none
  host : Option String := none
  port : Option Int := some 5432
  database : Option String := none
  username : Option String := none
  password : Option String := none
  deriving DecidableEq, Repr

namespace Connection

def part (s : Option String) : String := s.getD "None"

/-- The address under which the database is opened. -/
def url (c : Connection) : String :=
  match c.kind with
  | .sqlite => "sqlite:///" ++ part c.filePath
  | .postgresql =>
    "postgresql+psycopg2://" ++ part c.username ++ ":" ++ part c.password ++ "@" ++ part c.host ++
      ":" ++ part (c.port.map toString) ++ "/" ++ part c.database

/-- The schema that is meant when none is named. -/
def defaultSchema (c : Connection) : String :=
  match c.kind with
  | .sqlite => "main"
  | .postgresql => "public"

def toJson (c : Connection) : Json :=
  .obj [("db_type", .str c.kind.word), ("service_name", .str c.serviceName),
    ("file_path", Json.text? c.filePath), ("host", Json.text? c.host),
    ("port", Json.optional (c.port.map .int)), ("database", Json.text? c.database),
    ("username", Json.text? c.username), ("password", Json.text? c.password)]

def ofMembers (ms : List (String × Json)) : Checked Connection :=
  Connection.mk
    <$> Shape.required "db_type" (Shape.choice DatabaseKind.words) ms
    <*> Shape.required "service_name" Shape.text ms
    <*> Shape.withDefault "file_path" none (Shape.nullable Shape.text) ms
    <*> Shape.withDefault "host" none (Shape.nullable Shape.text) ms
    <*> Shape.withDefault "port" (some 5432) (Shape.nullable Shape.integer) ms
    <*> Shape.withDefault "database" none (Shape.nullable Shape.text) ms
    <*> Shape.withDefault "username" none (Shape.nullable Shape.text) ms
    <*> Shape.withDefault "password" none (Shape.nullable Shape.text) ms

def ofJson : Shape Connection := Shape.record "ConnectionRequest" ofMembers

/-- A connection in a message from outside. -/
def ofMessage : Shape Connection := Shape.fields ofMembers

end Connection

/-- The answer to a registration. -/
structure Registered where
  serviceName : String
  kind : String
  status : String
  deriving DecidableEq, Repr

namespace Registered

def ofConnection (c : Connection) : Registered := ⟨c.serviceName, c.kind.word, "connected"⟩

def toJson (r : Registered) : Json :=
  .obj [("service_name", .str r.serviceName), ("db_type", .str r.kind), ("status", .str r.status)]

def ofJson : Shape Registered :=
  Shape.record "ConnectionResponse" fun ms =>
    Registered.mk
      <$> Shape.required "service_name" Shape.text ms
      <*> Shape.required "db_type" Shape.text ms
      <*> Shape.required "status" Shape.text ms

end Registered

/-- A connection in the list of all of them, without what is secret. -/
structure ConnectionEntry where
  serviceName : String
  kind : String
  host : Option String := none
  database : Option String := none
  filePath : Option String := none
  status : String := "connected"
  deriving DecidableEq, Repr

namespace ConnectionEntry

def ofConnection (c : Connection) : ConnectionEntry :=
  { serviceName := c.serviceName
    kind := c.kind.word
    host := c.host
    database := c.database
    filePath := c.filePath }

def toJson (e : ConnectionEntry) : Json :=
  .obj [("service_name", .str e.serviceName), ("db_type", .str e.kind),
    ("host", Json.text? e.host), ("database", Json.text? e.database),
    ("file_path", Json.text? e.filePath), ("status", .str e.status)]

def ofJson : Shape ConnectionEntry :=
  Shape.record "ConnectionListItem" fun ms =>
    ConnectionEntry.mk
      <$> Shape.required "service_name" Shape.text ms
      <*> Shape.required "db_type" Shape.text ms
      <*> Shape.withDefault "host" none (Shape.nullable Shape.text) ms
      <*> Shape.withDefault "database" none (Shape.nullable Shape.text) ms
      <*> Shape.withDefault "file_path" none (Shape.nullable Shape.text) ms
      <*> Shape.withDefault "status" "connected" Shape.text ms

end ConnectionEntry

/-- A request to read a schema through a connection that comes with it. -/
structure ExtractionOrder where
  connection : Connection
  schemaName : Option String := none
  resolveViews : Option Bool := none
  deriving DecidableEq, Repr

namespace ExtractionOrder

def toJson (o : ExtractionOrder) : Json :=
  .obj [("connection", o.connection.toJson), ("schema_name", Json.text? o.schemaName),
    ("resolve_views", Json.optional (o.resolveViews.map .bool))]

def ofMembers (connection : Shape Connection) (ms : List (String × Json)) :
    Checked ExtractionOrder :=
  ExtractionOrder.mk
    <$> Shape.required "connection" connection ms
    <*> Shape.withDefault "schema_name" none (Shape.nullable Shape.text) ms
    <*> Shape.withDefault "resolve_views" none (Shape.nullable Shape.truth) ms

def ofJson : Shape ExtractionOrder :=
  Shape.record "ExtractRequest" (ofMembers Connection.ofJson)

/-- An order in a message from outside. -/
def ofMessage : Shape ExtractionOrder := Shape.fields (ofMembers Connection.ofMessage)

end ExtractionOrder
end SchemaLineage
