import SchemaLineage.View.Projection
import SchemaLineage.View.Scope
import SchemaLineage.Sql.Language
/-
From the text of a view's definition to the relations it reads and the origin of its columns.
-/

namespace SchemaLineage

open Sql

/-- Why a definition has no analysis. -/
inductive DefinitionFault where
  | empty
  /-- The text makes no statement, and what is wrong with it. -/
  | unreadable (text : String)
  | notSelect (kind : String)
  deriving DecidableEq, Repr

namespace DefinitionFault

def message : DefinitionFault → String
  | empty => "view definition is empty"
  | unreadable text => "could not parse definition: " ++ text
  | notSelect kind => "expected a single SELECT, found " ++ kind

end DefinitionFault

inductive AnalysisError where
  | unknownDialect (name : String)
  | definition (fault : DefinitionFault)
  deriving DecidableEq, Repr

namespace Source

/-- The source that a qualifier denotes; aliases are compared as written, then in any case. -/
def ofQualifier? (sources : List Source) (qualifier : String) : Option Source :=
  match sources.find? fun s => s.label = qualifier with
  | some s => some s
  | none => sources.find? fun s => Text.sameFolded s.label qualifier

/-- The sources that have a column with this name, each with its own spelling of the name. -/
def matching (sources : List Source) (name : String) : List (Source × String) :=
  sources.filterMap fun s =>
    (s.columns.bind (matchName name)).filter (fun n => !n.isEmpty) |>.map fun n => (s, n)

end Source

/-- The name of an item that has none. -/
def anonymousColumn : String := "?column?"

/-- The origin of a column in scope of the sources.  A name that several sources have is taken from
the one that other items name as a qualifier; where the columns of a source are not known, a name
without a qualifier cannot be followed. -/
def originOf (sources : List Source) (explicit : List String) (qualifier : Option String)
    (name outputName : String) : Projection :=
  match qualifier.filter fun q => !q.isEmpty with
  | some q =>
    match Source.ofQualifier? sources q with
    | some ⟨_, some ref, some columns⟩ =>
      match (matchName name columns).filter fun n => !n.isEmpty with
      | some n => .direct ref n outputName
      | none => .untraced outputName
    | _ => .untraced outputName
  | none =>
    if sources.any fun s => s.columns.isNone then .untraced outputName
    else
      let found := Source.matching sources name
      let found :=
        if 1 < found.length then found.filter fun m => explicit.contains m.1.label else found
      match found with
      | [(⟨_, some ref, _⟩, n)] => .direct ref n outputName
      | _ => .untraced outputName

namespace Sql

namespace Expr

def withoutParens : Expr → Expr
  | paren e => e.withoutParens
  | e => e

/-- An item without its alias and the parentheses around it. -/
def bare : Expr → Expr
  | named e _ => e.withoutParens
  | e => e.withoutParens

end Expr

/-- What an item of the `SELECT` clause contributes. -/
def Expr.projections (sources : List Source) (explicit : List String) (item : Expr) :
    List Projection :=
  match item with
  | .star => sources.map fun s => .wildcard s.relation
  | .starOf q =>
    [.wildcard ((sources.find? fun s => s.label = q).bind fun s => s.relation)]
  | e =>
    let outputName := if e.outputName.isEmpty then anonymousColumn else e.outputName
    match e.bare with
    | .column qualifier name => [originOf sources explicit qualifier name outputName]
    | _ => [.untraced outputName]

/-- The relations that a query names anywhere, those of its `FROM` clause first. -/
def Select.relations (scope : Scope) (sources : List Source) (q : Select) : List RelationRef :=
  (sources.filterMap (·.relation) ++ q.tables.filterMap fun t => scope.relation? t.1 t.2).eraseDups

def Select.analysis (known : KnownRelations) (home : String) (q : Select) : ViewAnalysis :=
  let scope : Scope := ⟨known, home, q.cteNames⟩
  let sources := q.sources scope
  let explicit := (q.items.flatMap Expr.qualifiers).filter fun a => !a.isEmpty
  { sources := q.relations scope sources
    projections := q.items.flatMap (Expr.projections sources explicit) }

end Sql

/-- The text of a definition without the blanks and semicolons at its end. -/
def definitionText (definition : Option String) : String :=
  let cs := Text.strip (definition.getD "").toList
  String.ofList (Text.strip (cs.reverse.dropWhile (· == ';')).reverse)

/-- The query of a definition. -/
def selectOf (dialect : Language) (definition : Option String) : Except AnalysisError Select :=
  let text := definitionText definition
  if text.isEmpty then .error (.definition .empty)
  else
    match dialect.read? with
    | none => .error (.unknownDialect dialect.name)
    | some read =>
      match read text with
      | .error message => .error (.definition (.unreadable message))
      | .ok s =>
        match s.toSelect with
        | .ok q => .ok q
        | .error kind => .error (.definition (.notSelect kind))

def analyzeView (known : KnownRelations) (view : RelationRef) (dialect : Language)
    (definition : Option String) : Except AnalysisError ViewAnalysis :=
  (selectOf dialect definition).map (Select.analysis known view.schemaName)

end SchemaLineage
