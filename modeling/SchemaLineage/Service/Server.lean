import SchemaLineage.Catalog.Engine
import SchemaLineage.Extraction.Pass
import SchemaLineage.Schema.Format
import SchemaLineage.Service.Exchange
import SchemaLineage.Service.Registry
import SchemaLineage.Service.Settings
/-
The service: what it answers to a request, and what the request leaves registered.

Only a registration and a removal that succeed change the registry.  A schema is read the same way
through a registered connection and through one that comes with the request.
-/

namespace SchemaLineage

/-- What a path leads to. -/
inductive Resource where
  | health
  | connections
  | connection (serviceName : String)
  | extraction
  | schema (serviceName schemaName : String)
  deriving DecidableEq, Repr

namespace Resource

/-- Whether a path ends with a word; a line break behind it does not count. -/
def endsAs (segment : List Char) (word : String) : Bool :=
  segment == word.toList || segment == word.toList ++ ['\n']

def ofSegments? (segments : List (List Char)) : Option Resource :=
  match segments with
  | [a, b] =>
    if a != "api".toList then none
    else if endsAs b "health" then some health
    else if endsAs b "connections" then some connections
    else if endsAs b "extract" then some extraction
    else none
  | [a, b, c] =>
    if a == "api".toList && b == "connections".toList && !c.isEmpty then
      some (connection (String.ofList c))
    else none
  | [a, b, c, d] =>
    if a == "api".toList && b == "schemas".toList && !c.isEmpty && !d.isEmpty then
      some (schema (String.ofList c) (String.ofList d))
    else none
  | _ => none

end Resource

namespace Target

def resource? (t : Target) : Option Resource := t.segments.bind Resource.ofSegments?

/-- A target that leads nowhere is sent again without the slashes at its end, if that helps. -/
def settled : Nat → Target → Target
  | 0, t => t
  | n + 1, t =>
    if t.resource?.isSome || t.trimmed.resource?.isNone then t else settled n t.trimmed.reread

end Target

/-- The settings, and the databases behind addresses. -/
structure Service where
  settings : Settings
  databaseAt : String → Engine

namespace ExtractionError

def status : ExtractionError → Nat
  | cycle _ => 422
  | catalog (.unavailable _) => 502
  | timeout .. => 504
  | _ => 500

def response (e : ExtractionError) : Response :=
  .detail e.status (if e.status = 500 then "Extraction error: " ++ e.message else e.message)

end ExtractionError

namespace Service

/-- Only that a database cannot be reached is provided for. -/
def unreachable : ConnectFault → Response
  | .failed text => .detail 400 ("Could not connect to database: " ++ text)
  | .other _ => .failure

/-- Read a schema, the default one when none is named. -/
def extraction (s : Service) (c : Connection) (schemaName : Option String)
    (resolveViews : Option Bool) : Response :=
  let engine := s.databaseAt c.url
  match engine.connect with
  | .error f => unreachable f
  | .ok () =>
    let schemaName := (schemaName.filter fun n => !n.isEmpty).getD c.defaultSchema
    let resolve := resolveViews.getD s.settings.resolveViews
    match engine.catalog.extract schemaName resolve (some s.settings.timeout) with
    | .ok e => ⟨200, e.toJson⟩
    | .error e => e.response

def health (s : Service) (r : Registry) : Response :=
  ⟨200, .obj [("status", .str "ok"), ("version", .str "1.0.0"),
    ("resolve_views", .bool s.settings.resolveViews), ("connections", .int r.length)]⟩

def listing (r : Registry) : Response :=
  ⟨200, .obj [("connections", .arr (r.entries.map ConnectionEntry.toJson))]⟩

/-- Register a connection that can be opened. -/
def registration (s : Service) (r : Registry) (q : Request) : Response × Registry :=
  match q.message Connection.ofMessage with
  | .faulty fs => (.invalid fs, r)
  | .ok c =>
    match (s.databaseAt c.url).connect with
    | .error f => (unreachable f, r)
    | .ok () => (⟨201, (Registered.ofConnection c).toJson⟩, r.register c)

def removal (r : Registry) (serviceName : String) : Response × Registry :=
  match r.find? serviceName with
  | none => (.detail 404 ("Service '" ++ serviceName ++ "' not found."), r)
  | some _ =>
    (⟨200, .obj [("message", .str ("Service '" ++ serviceName ++ "' removed successfully."))]⟩,
      r.remove serviceName)

/-- Read a schema through a connection that comes with the request. -/
def inlineExtraction (s : Service) (q : Request) : Response :=
  match q.message ExtractionOrder.ofMessage with
  | .faulty fs => .invalid fs
  | .ok o => s.extraction o.connection o.schemaName o.resolveViews

/-- Whether views are to be resolved, as the parameter says. -/
def resolveParameter (t : Target) : Checked (Option Bool) :=
  match t.parameter? "resolve_views" with
  | none => .ok none
  | some v => (((Shape.truth (.str v)).map some).under (.field "resolve_views")).under (.field "query")

/-- Read a schema through a registered connection. -/
def registeredExtraction (s : Service) (r : Registry) (t : Target)
    (serviceName schemaName : String) : Response :=
  match resolveParameter t with
  | .faulty fs => .invalid fs
  | .ok resolveViews =>
    match r.find? serviceName with
    | none =>
      .detail 404 ("Service '" ++ serviceName ++ "' not found. Please register it first.")
    | some c => s.extraction c (some schemaName) resolveViews

/-- The answer to a request, and the registry after it. -/
def respond (s : Service) (r : Registry) (q : Request) : Response × Registry :=
  let t := q.target.settled q.target.path.length
  match t.resource?, q.method with
  | none, _ => (.notFound, r)
  | some .health, .get => (s.health r, r)
  | some .connections, .get => (listing r, r)
  | some .connections, .post => s.registration r q
  | some (.connection serviceName), .delete => removal r serviceName
  | some .extraction, .post => (s.inlineExtraction q, r)
  | some (.schema serviceName schemaName), .get =>
    (s.registeredExtraction r t serviceName schemaName, r)
  | some _, _ => (.methodNotAllowed, r)

/-- The answers to requests that come one after another. -/
def respondAll (s : Service) : Registry → List Request → List Response
  | _, [] => []
  | r, q :: qs =>
    let (response, r) := s.respond r q
    response :: s.respondAll r qs

end Service
end SchemaLineage
