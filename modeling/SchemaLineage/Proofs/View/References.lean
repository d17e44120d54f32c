import Mathlib.Data.Fintype.EquivFin
import Mathlib.Data.List.Dedup
import SchemaLineage.Proofs.Outcome
import SchemaLineage.View.Analysis
/-
Which tables a query speaks of, and which names its `WITH` clauses take away from it.

A `WITH` clause binds names for the query that it is attached to, with everything nested in it.  The
queries of the clause itself are read one after another: each sees the names of those before it, and
its own only if it is recursive.  Every table's name is thus listed with the names that are bound
where it stands (`Reference`), and a query reads the relations that its free references denote
(`Query.Reads`).

An analysis does not go by this.  It looks up every name that is mentioned at any depth, but for
names without a schema that the outermost clause binds.  For the queries for which this amounts to
the same there is a condition on names alone (`Select.OwnNamesDecide`).
-/

namespace SchemaLineage

/-- A table's name, and the names that are bound where it stands. -/
structure Reference where
  schema : Option String
  name : String
  bound : List String
  deriving DecidableEq, Repr

namespace Reference

/-- Names are bound as they are written, and only where no schema is given. -/
def Free (t : Reference) : Prop := ¬ (t.schema = none ∧ t.name ∈ t.bound)

instance : DecidablePred Free := fun t =>
  inferInstanceAs (Decidable (¬ (t.schema = none ∧ t.name ∈ t.bound)))

/-- What a reference looks up. -/
def key (t : Reference) : Option String × String := (t.schema, t.name)

end Reference

namespace Sql

/-- The names that the definitions of a `WITH` clause bind, before those bound around it. -/
def within (ctes : List Cte) (bound : List String) : List String := ctes.map Cte.name ++ bound

mutual

/-- The tables that are referred to where the names `bound` are, in the order of `mentions`. -/
def Expr.references (bound : List String) : Expr → List Reference
  | .column _ _ => []
  | .star => []
  | .starOf _ => []
  | .literal _ => []
  | .null => []
  | .named e _ => e.references bound
  | .paren e => e.references bound
  | .cast e => e.references bound
  | .member e p => e.references bound ++ p.references bound
  | .index e is => e.references bound ++ referencesOfExprs bound is
  | .keyed _ e k => e.references bound ++ k.references bound
  | .call _ es => referencesOfExprs bound es
  | .operation _ es => referencesOfExprs bound es
  | .subquery q => q.references bound
  | .query q => q.references bound
  | .relation i => i.references bound

def Query.references (bound : List String) : Query → List Reference
  | .select s => s.references bound
  | .combined _ l r cs ws =>
    l.references (within ws bound) ++ r.references (within ws bound) ++
      referencesOfExprs (within ws bound) cs ++ referencesOfCtes bound ws
  | .values rs _ => referencesOfExprs bound rs
  | .wrapped q _ js cs ws =>
    q.references (within ws bound) ++ referencesOfJoins (within ws bound) js ++
      referencesOfExprs (within ws bound) cs ++ referencesOfCtes bound ws
  | .other _ ps ws => referencesOfExprs (within ws bound) ps ++ referencesOfCtes bound ws

def Select.references (bound : List String) : Select → List Reference
  | .mk is src js cs ws =>
    referencesOfExprs (within ws bound) is ++ referencesOfItems (within ws bound) src ++
      referencesOfJoins (within ws bound) js ++ referencesOfExprs (within ws bound) cs ++
      referencesOfCtes bound ws

def FromItem.references (bound : List String) : FromItem → List Reference
  | .table s n _ es js =>
    ⟨s, n, bound⟩ :: referencesOfExprs bound es ++ referencesOfJoins bound js
  | .derived q _ js => q.references bound ++ referencesOfJoins bound js
  | .group i cs js =>
    i.references bound ++ referencesOfExprs bound cs ++ referencesOfJoins bound js
  | .other _ ps js => referencesOfExprs bound ps ++ referencesOfJoins bound js

def Join.references (bound : List String) : Join → List Reference
  | .mk i cs => i.references bound ++ referencesOfExprs bound cs

/-- A definition sees its own name only if it is recursive. -/
def Cte.references (bound : List String) : Cte → List Reference
  | .mk n recursive q => q.references (if recursive then n :: bound else bound)

def referencesOfExprs (bound : List String) : List Expr → List Reference
  | [] => []
  | e :: es => e.references bound ++ referencesOfExprs bound es

def referencesOfItems (bound : List String) : List FromItem → List Reference
  | [] => []
  | i :: is => i.references bound ++ referencesOfItems bound is

def referencesOfJoins (bound : List String) : List Join → List Reference
  | [] => []
  | j :: js => j.references bound ++ referencesOfJoins bound js

/-- Definitions see the names of those before them in the clause. -/
def referencesOfCtes (bound : List String) : List Cte → List Reference
  | [] => []
  | c :: cs => c.references bound ++ referencesOfCtes (c.name :: bound) cs

end

/-- A relation that the name lookup finds for a free reference of the query. -/
def Query.Reads (known : KnownRelations) (home : String) (q : Query) (r : RelationRef) : Prop :=
  ∃ t ∈ q.references [], t.Free ∧ known.lookup home t.schema t.name = some r

/-! ## The same names are mentioned -/

/-- The tables among the names mentioned. -/
def tablesOf (ms : List (Nat × Mention)) : List (Option String × String) :=
  ms.filterMap fun m => m.2.table?

@[simp] theorem tablesOf_append (ms ms' : List (Nat × Mention)) :
    tablesOf (ms ++ ms') = tablesOf ms ++ tablesOf ms' := List.filterMap_append

@[simp] theorem tablesOf_table (d : Nat) (schema : Option String) (name : String)
    (ms : List (Nat × Mention)) :
    tablesOf ((d, .table schema name) :: ms) = (schema, name) :: tablesOf ms := rfl

mutual

theorem Expr.references_keys (b : List String) (d : Nat) :
    ∀ e : Expr, (e.references b).map Reference.key = tablesOf (e.mentions d)
  | .column (some _) _ => rfl
  | .column none _ => rfl
  | .star => rfl
  | .starOf _ => rfl
  | .literal _ => rfl
  | .null => rfl
  | .named e _ => Expr.references_keys b (d + 1) e
  | .paren e => Expr.references_keys b (d + 1) e
  | .cast e => Expr.references_keys b (d + 1) e
  | .member e p => by
    simp only [Expr.references, Expr.mentions, List.map_append, tablesOf_append,
      Expr.references_keys b (d + 1) e, Expr.references_keys b (d + 1) p]
  | .index e is => by
    simp only [Expr.references, Expr.mentions, List.map_append, tablesOf_append,
      Expr.references_keys b (d + 1) e, referencesOfExprs_keys b (d + 1) is]
  | .keyed _ e k => by
    simp only [Expr.references, Expr.mentions, List.map_append, tablesOf_append,
      Expr.references_keys b (d + 1) e, Expr.references_keys b (d + 1) k]
  | .call _ es => referencesOfExprs_keys b (d + 1) es
  | .operation _ es => referencesOfExprs_keys b (d + 1) es
  | .subquery q => Query.references_keys b (d + 1) q
  | .query q => Query.references_keys b d q
  | .relation i => FromItem.references_keys b d i

theorem Query.references_keys (b : List String) (d : Nat) :
    ∀ q : Query, (q.references b).map Reference.key = tablesOf (q.mentions d)
  | .select s => Select.references_keys b d s
  | .combined _ l r cs ws => by
    simp only [Query.references, Query.mentions, List.map_append, tablesOf_append,
      Query.references_keys (within ws b) (d + 1) l,
      Query.references_keys (within ws b) (d + 1) r,
      referencesOfExprs_keys (within ws b) (d + 1) cs, referencesOfCtes_keys b d ws]
  | .values rs _ => referencesOfExprs_keys b (d + 1) rs
  | .wrapped q _ js cs ws => by
    simp only [Query.references, Query.mentions, List.map_append, tablesOf_append,
      Query.references_keys (within ws b) (d + 1) q,
      referencesOfJoins_keys (within ws b) (d + 1) js,
      referencesOfExprs_keys (within ws b) (d + 1) cs, referencesOfCtes_keys b d ws]
  | .other _ ps ws => by
    simp only [Query.references, Query.mentions, List.map_append, tablesOf_append,
      referencesOfExprs_keys (within ws b) (d + 1) ps, referencesOfCtes_keys b d ws]

theorem Select.references_keys (b : List String) (d : Nat) :
    ∀ s : Select, (s.references b).map Reference.key = tablesOf (s.mentions d)
  | .mk is src js cs ws => by
    simp only [Select.references, Select.mentions, List.map_append, tablesOf_append,
      referencesOfExprs_keys (within ws b) (d + 1) is,
      referencesOfItems_keys (within ws b) (d + 2) src,
      referencesOfJoins_keys (within ws b) (d + 1) js,
      referencesOfExprs_keys (within ws b) (d + 1) cs,
      referencesOfCtes_keys b d ws]

theorem FromItem.references_keys (b : List String) (d : Nat) :
    ∀ i : FromItem, (i.references b).map Reference.key = tablesOf (i.mentions d)
  | .table s n _ es js => by
    simp only [FromItem.references, FromItem.mentions, List.cons_append, List.map_cons,
      List.map_append, tablesOf_table, tablesOf_append, referencesOfExprs_keys b (d + 1) es,
      referencesOfJoins_keys b (d + 1) js]
    rfl
  | .derived q _ js => by
    simp only [FromItem.references, FromItem.mentions, List.map_append, tablesOf_append,
      Query.references_keys b (d + 1) q, referencesOfJoins_keys b (d + 1) js]
  | .group i cs js => by
    simp only [FromItem.references, FromItem.mentions, List.map_append, tablesOf_append,
      FromItem.references_keys b (d + 1) i, referencesOfExprs_keys b (d + 1) cs,
      referencesOfJoins_keys b (d + 1) js]
  | .other _ ps js => by
    simp only [FromItem.references, FromItem.mentions, List.map_append, tablesOf_append,
      referencesOfExprs_keys b (d + 1) ps, referencesOfJoins_keys b (d + 1) js]

theorem Join.references_keys (b : List String) (d : Nat) :
    ∀ j : Join, (j.references b).map Reference.key = tablesOf (j.mentions d)
  | .mk i cs => by
    simp only [Join.references, Join.mentions, List.map_append, tablesOf_append,
      FromItem.references_keys b (d + 1) i, referencesOfExprs_keys b (d + 1) cs]

theorem Cte.references_keys (b : List String) (d : Nat) :
    ∀ c : Cte, (c.references b).map Reference.key = tablesOf (c.mentions d)
  | .mk n recursive q => Query.references_keys (if recursive then n :: b else b) (d + 3) q

theorem referencesOfExprs_keys (b : List String) (d : Nat) :
    ∀ es : List Expr, (referencesOfExprs b es).map Reference.key = tablesOf (mentionsOfExprs d es)
  | [] => rfl
  | e :: es => by
    simp only [referencesOfExprs, mentionsOfExprs, List.map_append, tablesOf_append,
      Expr.references_keys b d e, referencesOfExprs_keys b d es]

theorem referencesOfItems_keys (b : List String) (d : Nat) : ∀ is : List FromItem,
    (referencesOfItems b is).map Reference.key = tablesOf (mentionsOfItems d is)
  | [] => rfl
  | i :: is => by
    simp only [referencesOfItems, mentionsOfItems, List.map_append, tablesOf_append,
      FromItem.references_keys b d i, referencesOfItems_keys b d is]

theorem referencesOfJoins_keys (b : List String) (d : Nat) : ∀ js : List Join,
    (referencesOfJoins b js).map Reference.key = tablesOf (mentionsOfJoins d js)
  | [] => rfl
  | j :: js => by
    simp only [referencesOfJoins, mentionsOfJoins, List.map_append, tablesOf_append,
      Join.references_keys b d j, referencesOfJoins_keys b d js]

theorem referencesOfCtes_keys (b : List String) (d : Nat) :
    ∀ cs : List Cte, (referencesOfCtes b cs).map Reference.key = tablesOf (mentionsOfCtes d cs)
  | [] => rfl
  | c :: cs => by
    simp only [referencesOfCtes, mentionsOfCtes, List.map_append, tablesOf_append,
      Cte.references_keys b d c, referencesOfCtes_keys (c.name :: b) d cs]

end

theorem Select.tables_perm (q : Select) : q.tables.Perm (tablesOf (q.mentions 0)) :=
  (List.mergeSort_perm _ _).filterMap _

theorem Select.mem_tables {q : Select} (b : List String) {p : Option String × String} :
    p ∈ q.tables ↔ ∃ t ∈ q.references b, t.key = p := by
  rw [q.tables_perm.mem_iff, ← q.references_keys b 0, List.mem_map]

/-! ## The tables of a `FROM` clause -/

mutual

/-- The tables that an item names without going into derived tables, from left to right. -/
def FromItem.tables : FromItem → List (Option String × String)
  | .table s n _ _ js => (s, n) :: tablesOfJoins js
  | .derived _ _ js => tablesOfJoins js
  | .group i _ js => i.tables ++ tablesOfJoins js
  | .other _ _ js => tablesOfJoins js

def Join.tables : Join → List (Option String × String)
  | .mk i _ => i.tables

def tablesOfJoins : List Join → List (Option String × String)
  | [] => []
  | j :: js => j.tables ++ tablesOfJoins js

end

def Select.fromTables (q : Select) : List (Option String × String) :=
  q.source.flatMap FromItem.tables ++ tablesOfJoins q.joins

section Scope

variable (s : Scope)

mutual

/-- The relations in scope are those that the tables of the clause denote. -/
theorem FromItem.relations_eq : ∀ i : FromItem, (i.sources s).filterMap (·.relation) =
    i.tables.filterMap fun t => s.relation? t.1 t.2
  | .table schema n _ _ js => by
    simp only [FromItem.sources, FromItem.tables, List.filterMap_cons, relationsOfJoins_eq js]
  | .derived _ _ js => relationsOfJoins_eq js
  | .group i _ js => by
    simp only [FromItem.sources, FromItem.tables, List.filterMap_append,
      FromItem.relations_eq i, relationsOfJoins_eq js]
  | .other _ _ js => relationsOfJoins_eq js

theorem Join.relations_eq : ∀ j : Join, (j.sources s).filterMap (·.relation) =
    j.tables.filterMap fun t => s.relation? t.1 t.2
  | .mk i _ => FromItem.relations_eq i

theorem relationsOfJoins_eq : ∀ js : List Join, (sourcesOfJoins s js).filterMap (·.relation) =
    (tablesOfJoins js).filterMap fun t => s.relation? t.1 t.2
  | [] => rfl
  | j :: js => by
    simp only [sourcesOfJoins, tablesOfJoins, List.filterMap_append, Join.relations_eq j,
      relationsOfJoins_eq js]

end

theorem Select.relations_eq (q : Select) : (q.sources s).filterMap (·.relation) =
    q.fromTables.filterMap fun t => s.relation? t.1 t.2 := by
  simp only [Select.sources, Select.fromTables, List.filterMap_append, relationsOfJoins_eq s,
    List.filterMap_flatMap, FromItem.relations_eq s]

end Scope

mutual

theorem FromItem.tables_sublist (d : Nat) :
    ∀ i : FromItem, i.tables.Sublist (tablesOf (i.mentions d))
  | .table _ _ _ es js => by
    simp only [FromItem.tables, FromItem.mentions, List.cons_append, tablesOf_table,
      tablesOf_append]
    exact ((tablesOfJoins_sublist (d + 1) js).trans (List.sublist_append_right _ _)).cons_cons _
  | .derived q _ js => by
    simp only [FromItem.tables, FromItem.mentions, tablesOf_append]
    exact (tablesOfJoins_sublist (d + 1) js).trans (List.sublist_append_right _ _)
  | .group i cs js => by
    simp only [FromItem.tables, FromItem.mentions, tablesOf_append]
    exact ((FromItem.tables_sublist (d + 1) i).trans (List.sublist_append_left _ _)).append
      (tablesOfJoins_sublist (d + 1) js)
  | .other _ ps js => by
    simp only [FromItem.tables, FromItem.mentions, tablesOf_append]
    exact (tablesOfJoins_sublist (d + 1) js).trans (List.sublist_append_right _ _)

theorem Join.tables_sublist (d : Nat) : ∀ j : Join, j.tables.Sublist (tablesOf (j.mentions d))
  | .mk i cs => by
    simp only [Join.tables, Join.mentions, tablesOf_append]
    exact (FromItem.tables_sublist (d + 1) i).trans (List.sublist_append_left _ _)

theorem tablesOfJoins_sublist (d : Nat) :
    ∀ js : List Join, (tablesOfJoins js).Sublist (tablesOf (mentionsOfJoins d js))
  | [] => List.Sublist.slnil
  | j :: js => by
    simp only [tablesOfJoins, mentionsOfJoins, tablesOf_append]
    exact (Join.tables_sublist d j).append (tablesOfJoins_sublist d js)

end

theorem tablesOfItems_sublist (d : Nat) : ∀ is : List FromItem,
    (is.flatMap FromItem.tables).Sublist (tablesOf (mentionsOfItems d is))
  | [] => List.Sublist.slnil
  | i :: is => by
    simp only [List.flatMap_cons, mentionsOfItems, tablesOf_append]
    exact (FromItem.tables_sublist d i).append (tablesOfItems_sublist d is)

theorem Select.fromTables_subset (q : Select) : q.fromTables ⊆ q.tables := by
  intro p hp
  rw [q.tables_perm.mem_iff]
  obtain ⟨is, src, js, cs, ws⟩ := q
  simp only [Select.mentions, tablesOf_append]
  rcases List.mem_append.mp hp with hp | hp
  · have hsrc := (tablesOfItems_sublist 2 src).subset hp
    simp only [List.mem_append]
    exact .inl (.inl (.inl (.inr hsrc)))
  · have hjs := (tablesOfJoins_sublist 1 js).subset hp
    simp only [List.mem_append]
    exact .inl (.inl (.inr hjs))

/-! ## What an analysis reads -/

namespace Select

variable {q : Select} {known : KnownRelations} {home : String} {r : RelationRef}

/-- An analysis looks up all the names mentioned, but for those that the query's own `WITH` clause
binds. -/
theorem mem_sources_iff : r ∈ (q.analysis known home).sources ↔
    ∃ p ∈ q.tables, ¬ (p.1 = none ∧ p.2 ∈ q.cteNames) ∧ known.lookup home p.1 p.2 = some r := by
  let scope : Scope := ⟨known, home, q.cteNames⟩
  have hrelation : ∀ p : Option String × String, scope.relation? p.1 p.2 = some r ↔
      ¬ (p.1 = none ∧ p.2 ∈ q.cteNames) ∧ known.lookup home p.1 p.2 = some r := by
    intro p
    simp only [scope, Scope.relation?, ite_eq_iff, reduceCtorEq, and_false, false_or]
  have hmem : r ∈ (q.analysis known home).sources ↔
      r ∈ (q.sources scope).filterMap (·.relation) ∨
        r ∈ q.tables.filterMap fun t => scope.relation? t.1 t.2 :=
    List.mem_eraseDups.trans List.mem_append
  rw [hmem, q.relations_eq scope]
  simp only [List.mem_filterMap, hrelation]
  constructor
  · rintro (⟨p, hp, h⟩ | ⟨p, hp, h⟩)
    · exact ⟨p, q.fromTables_subset hp, h⟩
    · exact ⟨p, hp, h⟩
  · rintro ⟨p, hp, h⟩
    exact .inr ⟨p, hp, h⟩

end Select

/-! ## Relations that tell all names apart -/

/-- A relation for a name; one without a schema is at home. -/
def standIn (home : String) (p : Option String × String) : RelationRef :=
  ⟨p.1.getD home, p.2, .table⟩

def standIns (home : String) (ps : List (Option String × String)) : KnownRelations :=
  ps.dedup.map fun p => (standIn home p, [])

section StandIns

variable {home : String} {ps : List (Option String × String)}

/-- At a home that no name speaks of, names have relations of their own. -/
theorem standIn_inj (hhome : ∀ p ∈ ps, p.1 ≠ some home) :
    ∀ p ∈ ps, ∀ p' ∈ ps, standIn home p = standIn home p' → p = p' := by
  rintro ⟨schema, name⟩ hp ⟨schema', name'⟩ hp' heq
  have hschema : schema.getD home = schema'.getD home := congrArg RelationRef.schemaName heq
  have hname : name = name' := congrArg RelationRef.name heq
  subst hname
  cases schema with
  | none =>
    cases schema' with
    | none => rfl
    | some s' => exact absurd (congrArg some hschema.symm) (hhome _ hp')
  | some s =>
    cases schema' with
    | none => exact absurd (congrArg some hschema) (hhome _ hp)
    | some s' => rw [show s = s' from hschema]

theorem standIns_refs : (standIns home ps).map (·.1) = ps.dedup.map (standIn home) := List.map_map

theorem lookup_standIns {p : Option String × String} (hp : p ∈ ps) :
    (standIns home ps).lookup home p.1 p.2 = some (standIn home p) := by
  have hspelled : (standIns home ps).spelled? (p.1.getD home) p.2 = some (standIn home p) := by
    have hmem : standIn home p ∈ ((standIns home ps).map (·.1)).filter fun r =>
        r.schemaName = p.1.getD home && r.name = p.2 := by
      refine List.mem_filter.mpr ⟨?_, by simp [standIn]⟩
      rw [standIns_refs]
      exact List.mem_map_of_mem (List.mem_dedup.mpr hp)
    cases hlast : (standIns home ps).spelled? (p.1.getD home) p.2 with
    | none =>
      rw [List.getLast?_eq_none_iff.mp hlast] at hmem
      exact absurd hmem List.not_mem_nil
    | some r =>
      obtain ⟨hr, hkey⟩ := List.mem_filter.mp (List.mem_of_getLast? hlast)
      rw [standIns_refs] at hr
      obtain ⟨p', -, rfl⟩ := List.mem_map.mp hr
      obtain ⟨hschema, hname⟩ := Bool.and_eq_true_iff.mp hkey
      have hschema' : p'.1.getD home = p.1.getD home := of_decide_eq_true hschema
      have hname' : p'.2 = p.2 := of_decide_eq_true hname
      simp only [standIn, hschema', hname']
  rw [KnownRelations.lookup, hspelled]

/-- For any names there are relations among which each of them denotes another one. -/
theorem exists_known (ps : List (Option String × String)) :
    ∃ (known : KnownRelations) (home : String), (known.map (·.1)).Nodup ∧
      ∀ p ∈ ps, ∃ r, known.lookup home p.1 p.2 = some r ∧
        ∀ p' ∈ ps, known.lookup home p'.1 p'.2 = some r → p' = p := by
  obtain ⟨home, hhome⟩ := Infinite.exists_notMem_finset (ps.filterMap (·.1)).toFinset
  have hinj : ∀ p ∈ ps, ∀ p' ∈ ps, standIn home p = standIn home p' → p = p' :=
    standIn_inj fun p hp heq =>
      hhome (List.mem_toFinset.mpr (List.mem_filterMap.mpr ⟨p, hp, heq⟩))
  refine ⟨standIns home ps, home, ?_, fun p hp => ⟨_, lookup_standIns hp, fun p' hp' h => ?_⟩⟩
  · rw [standIns_refs]
    refine (List.nodup_dedup ps).map_on fun p hp p' hp' heq => ?_
    exact hinj p (List.mem_dedup.mp hp) p' (List.mem_dedup.mp hp') heq
  · rw [lookup_standIns hp'] at h
    exact hinj p' hp' p hp (Option.some.inj h)

end StandIns

/-! ## When an analysis goes by the bindings -/

/-- Every name that the query's own `WITH` clause binds is bound wherever it is mentioned, and every
other name without a schema is free somewhere. -/
structure Select.OwnNamesDecide (q : Select) : Prop where
  own : ∀ t ∈ q.references [], t.schema = none → t.name ∈ q.cteNames → t.name ∈ t.bound
  other : ∀ t ∈ q.references [], t.schema = none → t.name ∉ q.cteNames →
    ∃ u ∈ q.references [], u.key = t.key ∧ u.Free

section Reads

variable {q : Select}

theorem Select.OwnNamesDecide.mem_sources_iff (h : q.OwnNamesDecide) (known : KnownRelations)
    (home : String) (r : RelationRef) :
    r ∈ (q.analysis known home).sources ↔ (Query.select q).Reads known home r := by
  rw [Select.mem_sources_iff]
  constructor
  · rintro ⟨p, hp, hnot, hlookup⟩
    obtain ⟨t, ht, rfl⟩ := (Select.mem_tables []).mp hp
    by_cases hschema : t.schema = none
    · obtain ⟨u, hu, hkey, hfree⟩ := h.other t ht hschema fun hown => hnot ⟨hschema, hown⟩
      have hlookup' : known.lookup home u.key.1 u.key.2 = some r := by rw [hkey]; exact hlookup
      exact ⟨u, hu, hfree, hlookup'⟩
    · exact ⟨t, ht, fun hbound => hschema hbound.1, hlookup⟩
  · rintro ⟨t, ht, hfree, hlookup⟩
    refine ⟨t.key, (Select.mem_tables []).mpr ⟨t, ht, rfl⟩, ?_, hlookup⟩
    rintro ⟨hschema, hown⟩
    exact hfree ⟨hschema, h.own t ht hschema hown⟩

/-- Among relations that tell all names apart, one name that is treated otherwise is seen. -/
theorem Select.ownNamesDecide_of_reads
    (h : ∀ (known : KnownRelations) (home : String), (known.map (·.1)).Nodup →
      ∀ r, r ∈ (q.analysis known home).sources ↔ (Query.select q).Reads known home r) :
    q.OwnNamesDecide := by
  obtain ⟨known, home, hnodup, hdenote⟩ := exists_known q.tables
  have hmem : ∀ t ∈ q.references [], t.key ∈ q.tables := fun t ht =>
    (Select.mem_tables []).mpr ⟨t, ht, rfl⟩
  constructor
  · intro t ht hschema hown
    obtain ⟨r, hr, honly⟩ := hdenote t.key (hmem t ht)
    by_contra hbound
    have hreads : (Query.select q).Reads known home r := ⟨t, ht, fun h => hbound h.2, hr⟩
    obtain ⟨p, hp, hnot, hlookup⟩ := Select.mem_sources_iff.mp ((h known home hnodup r).mpr hreads)
    rw [honly p hp hlookup] at hnot
    exact hnot ⟨hschema, hown⟩
  · intro t ht hschema hother
    obtain ⟨r, hr, honly⟩ := hdenote t.key (hmem t ht)
    have hsource : r ∈ (q.analysis known home).sources :=
      Select.mem_sources_iff.mpr ⟨t.key, hmem t ht, fun h => hother h.2, hr⟩
    obtain ⟨u, hu, hfree, hlookup⟩ := (h known home hnodup r).mp hsource
    exact ⟨u, hu, honly u.key (hmem u hu) hlookup, hfree⟩

/-- An analysis finds just what its query reads, whichever relations are known, exactly if the names
of the query's own `WITH` clause decide what is bound. -/
theorem Select.sources_read_iff (q : Select) :
    (∀ (known : KnownRelations) (home : String), (known.map (·.1)).Nodup →
      ∀ r, r ∈ (q.analysis known home).sources ↔ (Query.select q).Reads known home r) ↔
    q.OwnNamesDecide :=
  ⟨Select.ownNamesDecide_of_reads, fun h known home _ => h.mem_sources_iff known home⟩

end Reads

def ordersRef : RelationRef := ⟨"public", "orders", .table⟩

def ordersOnly : KnownRelations := [(ordersRef, ["id", "customer_id", "total"])]

def customersRef : RelationRef := ⟨"public", "customers", .table⟩

def ordersAndCustomers : KnownRelations := ordersOnly ++ [(customersRef, ["id", "name"])]

/-- `orders AS o` -/
def ordersItem : FromItem := .table none "orders" (some "o") [] []

/-- `public."Customers" AS c` -/
def customersItem : FromItem := .table (some "public") "Customers" (some "c") [] []

theorem lookup_orders : ordersOnly.lookup "public" none "orders" = some ordersRef := by
  decide +kernel

/-- A derived table reads a definition of its own that is named like a table. -/
def nestedWith : String :=
  "SELECT id FROM (WITH orders AS (SELECT 1 AS id) SELECT id FROM orders) AS s"

theorem nestedWith_misread : ∃ q, selectOf (.named "postgres") (some nestedWith) = .ok q ∧
    ordersRef ∈ (q.analysis ordersOnly "public").sources ∧
    ¬ (Query.select q).Reads ordersOnly "public" ordersRef := by
  have hvalue : (selectOf (.named "postgres") (some nestedWith)).toOption.map (fun q =>
      (q.references [], q.cteNames)) = some ([⟨none, "orders", ["orders"]⟩], []) := by
    decide +kernel
  obtain ⟨q, hq, heq⟩ := ok_of_map_toOption hvalue
  obtain ⟨hreferences, hnames⟩ := Prod.mk.inj heq
  refine ⟨q, hq, ?_, ?_⟩
  · have hmem : (none, "orders") ∈ q.tables := by
      refine (Select.mem_tables []).mpr ⟨⟨none, "orders", ["orders"]⟩, ?_, rfl⟩
      rw [hreferences]
      exact List.mem_cons_self
    refine Select.mem_sources_iff.mpr ⟨_, hmem, ?_, lookup_orders⟩
    rw [hnames]
    exact fun h => absurd h.2 List.not_mem_nil
  · rintro ⟨t, ht, hfree, -⟩
    have ht' : t ∈ q.references [] := ht
    rw [hreferences, List.mem_singleton] at ht'
    rw [ht'] at hfree
    exact hfree ⟨rfl, List.mem_singleton.mpr rfl⟩

/-- A definition is named like the table that it reads. -/
def shadowingWith : String := "WITH orders AS (SELECT id FROM orders) SELECT id FROM orders"

theorem shadowingWith_misread : ∃ q, selectOf (.named "postgres") (some shadowingWith) = .ok q ∧
    ordersRef ∉ (q.analysis ordersOnly "public").sources ∧
    (Query.select q).Reads ordersOnly "public" ordersRef := by
  have hvalue : (selectOf (.named "postgres") (some shadowingWith)).toOption.map (fun q =>
      (q.references [], q.cteNames)) =
        some ([⟨none, "orders", ["orders"]⟩, ⟨none, "orders", []⟩], ["orders"]) := by
    decide +kernel
  obtain ⟨q, hq, heq⟩ := ok_of_map_toOption hvalue
  obtain ⟨hreferences, hnames⟩ := Prod.mk.inj heq
  refine ⟨q, hq, ?_, ?_⟩
  · intro hsource
    obtain ⟨p, hp, hnot, -⟩ := Select.mem_sources_iff.mp hsource
    obtain ⟨t, ht, rfl⟩ := (Select.mem_tables []).mp hp
    have hkey : t.key = (none, "orders") := by
      rw [hreferences] at ht
      rcases List.mem_pair.mp ht with rfl | rfl <;> rfl
    rw [hkey, hnames] at hnot
    exact hnot ⟨rfl, List.mem_singleton.mpr rfl⟩
  · have ht : (⟨none, "orders", []⟩ : Reference) ∈ q.references [] := by
      rw [hreferences]
      exact List.mem_cons_of_mem _ List.mem_cons_self
    exact ⟨_, ht, by decide, lookup_orders⟩

/-- A bound name is taken for a table, and a table is missed whose name is bound elsewhere. -/
theorem sources_misread :
    (∃ q, selectOf (.named "postgres") (some nestedWith) = .ok q ∧
      ordersRef ∈ (q.analysis ordersOnly "public").sources ∧
      ¬ (Query.select q).Reads ordersOnly "public" ordersRef) ∧
    ∃ q, selectOf (.named "postgres") (some shadowingWith) = .ok q ∧
      ordersRef ∉ (q.analysis ordersOnly "public").sources ∧
      (Query.select q).Reads ordersOnly "public" ordersRef :=
  ⟨nestedWith_misread, shadowingWith_misread⟩

end Sql
end SchemaLineage
