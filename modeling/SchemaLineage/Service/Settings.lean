import SchemaLineage.Decimal.Numeral
import SchemaLineage.Extraction.Seconds
import SchemaLineage.Validation.Shape
/-
The settings of the service and how they are read from environment variables.
-/

namespace SchemaLineage

structure Settings where
  host : String := "0.0.0.0"
  port : Int := 8000
  /-- Origins that may call the service, with commas between them. -/
  corsOrigins : String := "http://localhost:5173"
  resolveViews : Bool := true
  maxWorkers : Int := 8
  /-- How long a pass may take; zero means as long as it needs. -/
  timeout : Seconds := .binary (.ofRatio false 120 1)
  logLevel : String := "INFO"
  deriving DecidableEq, Repr

namespace Settings

/-- The names of the settings, in order. -/
def names : List String :=
  ["API_HOST", "API_PORT", "CORS_ORIGINS", "RESOLVE_VIEWS", "EXTRACT_MAX_WORKERS",
   "EXTRACT_TIMEOUT_SECONDS", "LOG_LEVEL"]

/-- The variables that set something.  Names are compared in any case, and of several variables for
one setting the last counts. -/
def assignments (environment : List (String × String)) : List (String × Json) :=
  names.filterMap fun name =>
    (environment.reverse.find? fun v => Text.lowered v.1 = Text.lowered name).map fun v =>
      (name, .str v.2)

def seconds : Shape Seconds := fun v =>
  let cs := (v.string?.getD "").toList
  let number :=
    match Binary64.ofNumeral? (Shape.unpadded cs) with
    | some x => some x
    | none => (Binary64.withoutLowLines? cs).bind Binary64.ofNumeral?
  match number with
  | some x => .ok (.binary x)
  | none => .fail .notNumberText

def ofEnvironment (environment : List (String × String)) : Checked Settings :=
  let ms := assignments environment
  let unset : Settings := {}
  Settings.mk
    <$> Shape.withDefault "API_HOST" unset.host Shape.text ms
    <*> Shape.withDefault "API_PORT" unset.port Shape.integer ms
    <*> Shape.withDefault "CORS_ORIGINS" unset.corsOrigins Shape.text ms
    <*> Shape.withDefault "RESOLVE_VIEWS" unset.resolveViews Shape.truth ms
    <*> Shape.withDefault "EXTRACT_MAX_WORKERS" unset.maxWorkers Shape.integer ms
    <*> Shape.withDefault "EXTRACT_TIMEOUT_SECONDS" unset.timeout seconds ms
    <*> Shape.withDefault "LOG_LEVEL" unset.logLevel Shape.text ms

/-- The origins one by one, without the blanks around them. -/
def origins (s : Settings) : List String :=
  ((Text.splitWhen (· == ',') s.corsOrigins.toList).map fun o => String.ofList (Text.strip o)).filter
    fun o => !o.isEmpty

def toJson (s : Settings) : Json :=
  .obj [("API_HOST", .str s.host), ("API_PORT", .int s.port), ("CORS_ORIGINS", .str s.corsOrigins),
    ("RESOLVE_VIEWS", .bool s.resolveViews), ("EXTRACT_MAX_WORKERS", .int s.maxWorkers),
    ("EXTRACT_TIMEOUT_SECONDS", .str s.timeout.text), ("LOG_LEVEL", .str s.logLevel),
    ("cors_origin_list", .arr (s.origins.map .str))]

end Settings
end SchemaLineage
