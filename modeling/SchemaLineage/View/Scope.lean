import SchemaLineage.Relation
import SchemaLineage.Sql.Tree
import SchemaLineage.Text.Case
/-
What names mean in a query: which relation a table's name denotes, and what the items of a `FROM`
clause bring into scope.

A name is first taken as it is written, and then in any case if that leaves a single meaning.
-/

namespace SchemaLineage

open Text

/-- Relations with the names of their columns, in order; each relation occurs once. -/
abbrev KnownRelations := List (RelationRef × List String)

/-- The candidate that a name denotes. -/
def matchName (name : String) (candidates : List String) : Option String :=
  if name ∈ candidates then some name
  else
    match candidates.filter fun c => sameFolded c name with
    | [c] => some c
    | _ => none

theorem mem_of_matchName {name c : String} {candidates : List String}
    (h : matchName name candidates = some c) : c ∈ candidates := by
  unfold matchName at h
  split at h
  · cases h; assumption
  · split at h
    · rename_i c' hc
      cases h
      exact (List.mem_filter.mp (hc ▸ List.mem_singleton.mpr rfl)).1
    · cases h

namespace KnownRelations

/-- Of several relations with this very name and schema the last one counts. -/
def spelled? (known : KnownRelations) (schema name : String) : Option RelationRef :=
  ((known.map (·.1)).filter fun r => r.schemaName = schema && r.name = name).getLast?

/-- The relations that a name may denote when case is disregarded. -/
def folded (known : KnownRelations) (schema : Option String) (name : String) :
    List RelationRef :=
  (known.map (·.1)).filter fun r =>
    sameFolded r.name name && schema.all fun s => sameFolded r.schemaName s

/-- The relation that a name denotes; without a schema it is sought at home first. -/
def lookup (known : KnownRelations) (home : String) (schema : Option String) (name : String) :
    Option RelationRef :=
  match known.spelled? (schema.getD home) name with
  | some r => some r
  | none =>
    match known.folded schema name with
    | [r] => some r
    | _ => none

theorem mem_of_lookup {known : KnownRelations} {home name : String} {schema : Option String}
    {r : RelationRef} (h : known.lookup home schema name = some r) : r ∈ known.map (·.1) := by
  unfold lookup at h
  split at h
  · rename_i r' hr
    cases h
    exact (List.mem_filter.mp (List.mem_of_getLast? hr)).1
  · split at h
    · rename_i r' hr
      cases h
      exact (List.mem_filter.mp (hr ▸ List.mem_singleton.mpr rfl)).1
    · cases h

def columns? (known : KnownRelations) (ref : RelationRef) : Option (List String) :=
  List.lookup ref known

end KnownRelations

/-- What an item of a `FROM` clause brings into scope: a relation that is known, or a derived table
with columns of its own, or something whose columns are not known. -/
structure Source where
  label : String
  relation : Option RelationRef
  columns : Option (List String)
  deriving DecidableEq, Repr

/-- Where names are looked up: the relations, the schema the view is in, and the names that the
view's own `WITH` clause takes away. -/
structure Scope where
  known : KnownRelations
  home : String
  ctes : List String

namespace Scope

/-- The relation that a table's name denotes, unless a name without a schema is bound by `WITH`. -/
def relation? (s : Scope) (schema : Option String) (name : String) : Option RelationRef :=
  if schema = none ∧ name ∈ s.ctes then none else s.known.lookup s.home schema name

end Scope

namespace Sql

def Expr.isStar : Expr → Bool
  | .star => true
  | .starOf _ => true
  | _ => false

/-- The columns of a derived table, if its query names them all. -/
def Query.columns? : Query → Option (List String)
  | .select s =>
    if s.items.any Expr.isStar then none else some (s.items.map Expr.outputName)
  | _ => none

/-- The name under which a table is in scope. -/
def tableAlias (name : String) (label : Option String) : String :=
  match label with
  | some a => if a.isEmpty then name else a
  | none => name

mutual

/-- What an item brings into scope, from left to right. -/
def FromItem.sources (s : Scope) : FromItem → List Source
  | .table schema name label _ joins =>
    let ref := s.relation? schema name
    ⟨Sql.tableAlias name label, ref, ref.bind s.known.columns?⟩ :: sourcesOfJoins s joins
  | .derived body label joins => ⟨label, none, body.columns?⟩ :: sourcesOfJoins s joins
  | .group item _ joins => item.sources s ++ sourcesOfJoins s joins
  | .other label _ joins => ⟨label, none, none⟩ :: sourcesOfJoins s joins

def Join.sources (s : Scope) : Join → List Source
  | .mk item _ => item.sources s

def sourcesOfJoins (s : Scope) : List Join → List Source
  | [] => []
  | j :: js => j.sources s ++ sourcesOfJoins s js

end

def Select.cteNames (q : Select) : List String := q.ctes.map Cte.name

def Select.sources (s : Scope) (q : Select) : List Source :=
  q.source.flatMap (FromItem.sources s) ++ sourcesOfJoins s q.joins

end Sql
end SchemaLineage
