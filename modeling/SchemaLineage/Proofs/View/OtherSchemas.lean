import SchemaLineage.Association
import SchemaLineage.Proofs.View.References
/-
Relations of other schemas beside those that a view's bare names find at home.

A bare name that is spelled like a relation of the view's own schema denotes that one, whatever
other schemas have.  A name in another case is sought in all schemas at once, and then a relation
elsewhere that is like it leaves it without meaning (`KnownRelations.lookup_of_found`).  So when
relations of other schemas become known (`KnownRelations.Widened`), a name is lost exactly if it is
not spelled like a relation at home and only now finds one elsewhere; all others keep their meaning
(`Select.analysis_widened`).
-/

namespace SchemaLineage

namespace KnownRelations

variable {known known' : KnownRelations} {home name : String}

/-- The relations at home that a name may denote when case is disregarded. -/
def foldedAtHome (known : KnownRelations) (home name : String) : List RelationRef :=
  (known.folded none name).filter fun r => r.schemaName = home

def foldedElsewhere (known : KnownRelations) (home name : String) : List RelationRef :=
  (known.folded none name).filter fun r => r.schemaName ≠ home

/-- At home one relation fits the name, as it is spelled or else in any case. -/
def FoundAtHome (known : KnownRelations) (home name : String) : Prop :=
  known.spelled? home name ≠ none ∨ ∃ r, known.foldedAtHome home name = [r]

/-- The second map has all relations of the first one and perhaps more, but none at home. -/
structure Widened (home : String) (known known' : KnownRelations) : Prop where
  kept : known.Sublist known'
  home : (known'.filter fun e => e.1.schemaName = home) =
    known.filter fun e => e.1.schemaName = home

/-- The name is spelled like a relation at home, or no relation elsewhere comes to fit it. -/
def Undisturbed (home : String) (known known' : KnownRelations) (name : String) : Prop :=
  known.spelled? home name ≠ none ∨ known'.foldedElsewhere home name = [] ∨
    known.foldedElsewhere home name ≠ []

/-! ## One name -/

theorem lookup_of_spelled {r : RelationRef} (h : known.spelled? home name = some r) :
    known.lookup home none name = some r := by
  have h' : known.spelled? ((none : Option String).getD home) name = some r := h
  rw [lookup, h']

/-- A name that is spelled like no relation at home must not fit one elsewhere. -/
theorem lookup_of_found {r : RelationRef} (hspelled : known.spelled? home name = none)
    (hhome : known.foldedAtHome home name = [r]) :
    known.lookup home none name =
      if known.foldedElsewhere home name = [] then some r else none := by
  have hspelled' : known.spelled? ((none : Option String).getD home) name = none := hspelled
  have hperm : (known.foldedAtHome home name ++ known.foldedElsewhere home name).Perm
      (known.folded none name) := by
    have h := List.filter_append_perm (fun r : RelationRef => decide (r.schemaName = home))
      (known.folded none name)
    simpa only [foldedAtHome, foldedElsewhere, ne_eq, decide_not] using h
  rw [hhome] at hperm
  rw [lookup, hspelled']
  by_cases hnone : known.foldedElsewhere home name = []
  · rw [hnone, List.append_nil] at hperm
    rw [if_pos hnone, List.perm_singleton.mp hperm.symm]
  · have hlength := hperm.length_eq
    have hpos := List.length_pos_iff.mpr hnone
    rw [List.length_append, List.length_singleton] at hlength
    rw [if_neg hnone]
    dsimp only
    split
    · rename_i heq
      rw [heq, List.length_singleton] at hlength
      omega
    · rfl

namespace Widened

variable (h : Widened home known known')
include h

theorem refs : ((known'.map (·.1)).filter fun r => r.schemaName = home) =
    (known.map (·.1)).filter fun r => r.schemaName = home := by
  rw [List.filter_map, List.filter_map]
  exact congrArg (List.map (·.1)) h.home

theorem spelled? (name : String) : known'.spelled? home name = known.spelled? home name := by
  have hboth : ∀ k : KnownRelations,
      ((k.map (·.1)).filter fun r => r.schemaName = home && r.name = name) =
        ((k.map (·.1)).filter fun r => r.schemaName = home).filter fun r => r.name = name := by
    intro k
    rw [List.filter_filter]
    exact List.filter_congr fun r _ => Bool.and_comm _ _
  rw [KnownRelations.spelled?, KnownRelations.spelled?, hboth known', hboth known, h.refs]

theorem foldedAtHome (name : String) :
    known'.foldedAtHome home name = known.foldedAtHome home name := by
  unfold KnownRelations.foldedAtHome folded
  rw [List.filter_comm, List.filter_comm _ _ (known.map _), h.refs]

/-- What fits a name elsewhere goes on to fit it. -/
theorem foldedElsewhere_eq_nil (hnone : known'.foldedElsewhere home name = []) :
    known.foldedElsewhere home name = [] := by
  have hkept : (known.foldedElsewhere home name).Sublist (known'.foldedElsewhere home name) :=
    ((h.kept.map _).filter _).filter _
  rw [hnone] at hkept
  exact List.sublist_nil.mp hkept

/-- The columns of relations at home. -/
theorem columns? {r : RelationRef} (hr : r.schemaName = home) :
    known'.columns? r = known.columns? r := by
  have hfilter : ∀ k : KnownRelations,
      List.lookup r (k.filter fun e => e.1.schemaName = home) = List.lookup r k := by
    intro k
    exact lookup_filter (fun _ => by simpa using hr) k
  rw [KnownRelations.columns?, KnownRelations.columns?, ← hfilter known', h.home, hfilter]

/-- A name that is disturbed has a meaning no more, and all others have the one they had. -/
theorem lookup (hfound : known.FoundAtHome home name) :
    (Undisturbed home known known' name →
      known'.lookup home none name = known.lookup home none name) ∧
    (¬ Undisturbed home known known' name → known'.lookup home none name = none) := by
  by_cases hspelled : known.spelled? home name = none
  · have hspelled' : known'.spelled? home name = none := (h.spelled? name).trans hspelled
    obtain ⟨r, hr⟩ := hfound.resolve_left (not_not.mpr hspelled)
    have hr' : known'.foldedAtHome home name = [r] := (h.foldedAtHome name).trans hr
    rw [lookup_of_found hspelled hr, lookup_of_found hspelled' hr']
    constructor
    · rintro (hne | hnone | hsome)
      · exact absurd hspelled hne
      · rw [if_pos hnone, if_pos (h.foldedElsewhere_eq_nil hnone)]
      · rw [if_neg fun hnone => hsome (h.foldedElsewhere_eq_nil hnone), if_neg hsome]
    · intro hdisturbed
      exact if_neg fun hnone => hdisturbed (.inr (.inl hnone))
  · obtain ⟨r, hr⟩ := Option.ne_none_iff_exists'.mp hspelled
    refine ⟨fun _ => ?_, fun hdisturbed => absurd (.inl hspelled) hdisturbed⟩
    rw [lookup_of_spelled hr, lookup_of_spelled ((h.spelled? name).trans hr)]

end Widened

/-- What a name that is found at home denotes is at home. -/
theorem FoundAtHome.schemaName_eq (hfound : known.FoundAtHome home name) {r : RelationRef}
    (hr : known.lookup home none name = some r) : r.schemaName = home := by
  by_cases hspelled : known.spelled? home name = none
  · obtain ⟨r', hr'⟩ := hfound.resolve_left (not_not.mpr hspelled)
    rw [lookup_of_found hspelled hr'] at hr
    by_cases hnone : known.foldedElsewhere home name = []
    · rw [if_pos hnone] at hr
      have hmem : r ∈ known.foldedAtHome home name := by
        rw [hr', Option.some.inj hr]
        exact List.mem_singleton_self r
      exact of_decide_eq_true (List.mem_filter.mp hmem).2
    · rw [if_neg hnone] at hr
      cases hr
  · obtain ⟨r', hr'⟩ := Option.ne_none_iff_exists'.mp hspelled
    rw [lookup_of_spelled hr'] at hr
    have hmem := (List.mem_filter.mp (List.mem_of_getLast? hr')).2
    rw [Option.some.inj hr, Bool.and_eq_true] at hmem
    exact of_decide_eq_true hmem.1

end KnownRelations

/-! ## Scopes in which the tables of a query mean the same -/

/-- A table denotes the same relation with the same columns, or none. -/
def Scope.AgreeOn (s s' : Scope) (t : Option String × String) : Prop :=
  s'.relation? t.1 t.2 = s.relation? t.1 t.2 ∧
    ∀ r, s.relation? t.1 t.2 = some r → s'.known.columns? r = s.known.columns? r

namespace Sql

theorem source_of_agreeOn {s s' : Scope} {schema : Option String} {name : String}
    (h : s.AgreeOn s' (schema, name)) (label : String) :
    Source.mk label (s'.relation? schema name) ((s'.relation? schema name).bind s'.known.columns?) =
      ⟨label, s.relation? schema name, (s.relation? schema name).bind s.known.columns?⟩ := by
  rw [h.1]
  cases hr : s.relation? schema name with
  | none => rfl
  | some r => rw [Option.bind_some, Option.bind_some, h.2 r hr]

section

variable {s s' : Scope}

mutual

theorem FromItem.sources_of_agreeOn : ∀ item : FromItem, (∀ t ∈ item.tables, s.AgreeOn s' t) →
    item.sources s' = item.sources s
  | .table _ _ _ _ joins, h =>
    congrArg₂ List.cons (source_of_agreeOn (h _ List.mem_cons_self) _)
      (sourcesOfJoins_of_agreeOn joins fun t ht => h t (List.mem_cons_of_mem _ ht))
  | .derived _ _ joins, h => congrArg _ (sourcesOfJoins_of_agreeOn joins h)
  | .group item _ joins, h =>
    congrArg₂ (· ++ ·)
      (FromItem.sources_of_agreeOn item fun t ht => h t (List.mem_append_left _ ht))
      (sourcesOfJoins_of_agreeOn joins fun t ht => h t (List.mem_append_right _ ht))
  | .other _ _ joins, h => congrArg _ (sourcesOfJoins_of_agreeOn joins h)

theorem Join.sources_of_agreeOn : ∀ join : Join, (∀ t ∈ join.tables, s.AgreeOn s' t) →
    join.sources s' = join.sources s
  | .mk item _, h => FromItem.sources_of_agreeOn item h

theorem sourcesOfJoins_of_agreeOn : ∀ joins : List Join,
    (∀ t ∈ tablesOfJoins joins, s.AgreeOn s' t) → sourcesOfJoins s' joins = sourcesOfJoins s joins
  | [], _ => rfl
  | join :: joins, h =>
    congrArg₂ (· ++ ·)
      (Join.sources_of_agreeOn join fun t ht => h t (List.mem_append_left _ ht))
      (sourcesOfJoins_of_agreeOn joins fun t ht => h t (List.mem_append_right _ ht))

end

end

namespace Select

variable {q : Select} {known known' : KnownRelations} {home : String}

/-- The names under which a query reads relations; those that its own `WITH` clause binds are left
out. -/
def readNames (q : Select) : List String :=
  (q.tables.map (·.2)).filter fun n => n ∉ q.cteNames

theorem analysis_of_agreeOn
    (h : ∀ t ∈ q.tables, Scope.AgreeOn ⟨known, home, q.cteNames⟩ ⟨known', home, q.cteNames⟩ t) :
    q.analysis known' home = q.analysis known home := by
  have hsources : q.sources ⟨known', home, q.cteNames⟩ = q.sources ⟨known, home, q.cteNames⟩ := by
    have hclause := fun t ht => h t (q.fromTables_subset ht)
    refine congrArg₂ (· ++ ·) (List.flatMap_congr fun item hitem => ?_)
      (sourcesOfJoins_of_agreeOn q.joins fun t ht => hclause t (List.mem_append_right _ ht))
    refine FromItem.sources_of_agreeOn item fun t ht => hclause t (List.mem_append_left _ ?_)
    exact List.mem_flatMap.mpr ⟨item, hitem, ht⟩
  have hnamed : (q.tables.filterMap fun t => (Scope.mk known' home q.cteNames).relation? t.1 t.2) =
      q.tables.filterMap fun t => (Scope.mk known home q.cteNames).relation? t.1 t.2 :=
    List.filterMap_congr fun t ht => (h t ht).1
  unfold analysis relations
  dsimp only
  rw [hsources, hnamed]

section

variable (hbare : ∀ t ∈ q.tables, t.1 = none)
include hbare

theorem mem_readNames {n : String} :
    n ∈ q.readNames ↔ (none, n) ∈ q.tables ∧ n ∉ q.cteNames := by
  rw [readNames, List.mem_filter, List.mem_map, decide_eq_true_iff]
  refine and_congr_left fun _ => ⟨?_, fun ht => ⟨_, ht, rfl⟩⟩
  rintro ⟨⟨schema, n⟩, ht, rfl⟩
  obtain rfl : schema = none := hbare _ ht
  exact ht

theorem mem_sources_of_bare {r : RelationRef} : r ∈ (q.analysis known home).sources ↔
    ∃ n ∈ q.readNames, known.lookup home none n = some r := by
  rw [mem_sources_iff]
  constructor
  · rintro ⟨⟨schema, n⟩, ht, hfree, hr⟩
    obtain rfl : schema = none := hbare _ ht
    exact ⟨n, (mem_readNames hbare).mpr ⟨ht, fun hbound => hfree ⟨rfl, hbound⟩⟩, hr⟩
  · rintro ⟨n, hn, hr⟩
    obtain ⟨ht, hfree⟩ := (mem_readNames hbare).mp hn
    exact ⟨(none, n), ht, fun hbound => hfree hbound.2, hr⟩

end

/-- A name in both scopes; if `WITH` binds it, it is none in either. -/
theorem agreeOn_of_undisturbed (h : known.Widened home known') {ctes : List String} {n : String}
    (hn : n ∉ ctes → known.FoundAtHome home n ∧ known.Undisturbed home known' n) :
    Scope.AgreeOn ⟨known, home, ctes⟩ ⟨known', home, ctes⟩ (none, n) := by
  unfold Scope.AgreeOn Scope.relation?
  by_cases hbound : n ∈ ctes
  · rw [if_pos ⟨rfl, hbound⟩, if_pos ⟨rfl, hbound⟩]
    exact ⟨rfl, nofun⟩
  · obtain ⟨hfound, hundisturbed⟩ := hn hbound
    rw [if_neg fun hboth => hbound hboth.2, if_neg fun hboth => hbound hboth.2]
    exact ⟨(h.lookup hfound).1 hundisturbed, fun r hr => h.columns? (hfound.schemaName_eq hr)⟩

/-- Relations of other schemas take a bare name of the view's own schema away if it is not spelled
like the relation there and comes to fit one of them.  The query then reads the relations that its
other names denote.  If no name is taken away, nothing changes. -/
theorem analysis_widened (h : known.Widened home known') (hbare : ∀ t ∈ q.tables, t.1 = none)
    (hfound : ∀ n ∈ q.readNames, known.FoundAtHome home n) :
    (∀ r, r ∈ (q.analysis known' home).sources ↔ ∃ n ∈ q.readNames,
      known.Undisturbed home known' n ∧ known.lookup home none n = some r) ∧
    ((∀ n ∈ q.readNames, known.Undisturbed home known' n) →
      q.analysis known' home = q.analysis known home) := by
  refine ⟨fun r => ?_, fun hall => analysis_of_agreeOn fun t ht => ?_⟩
  · rw [mem_sources_of_bare hbare]
    refine exists_congr fun n => and_congr_right fun hn => ?_
    obtain ⟨hsame, hlost⟩ := h.lookup (hfound n hn)
    by_cases hundisturbed : known.Undisturbed home known' n
    · rw [hsame hundisturbed]
      exact (and_iff_right hundisturbed).symm
    · rw [hlost hundisturbed]
      exact iff_of_false nofun fun hboth => hundisturbed hboth.1
  · obtain ⟨schema, n⟩ := t
    obtain rfl : schema = none := hbare _ ht
    refine agreeOn_of_undisturbed h fun hfree => ?_
    have hn := (mem_readNames hbare).mpr ⟨ht, hfree⟩
    exact ⟨hfound n hn, hall n hn⟩

end Select

def auditRef : RelationRef := ⟨"audit", "orders", .table⟩

/-- A table of another schema with the name of a table at home. -/
def ordersTwice : KnownRelations := ordersOnly ++ [(auditRef, ["id"])]

theorem ordersTwice_widened : ordersOnly.Widened "public" ordersTwice where
  kept := List.sublist_append_left _ _
  home := by decide

/-- `SELECT id FROM …` -/
def ordersQuery (name : String) : Select :=
  .mk [.column none "id"] [.table none name none [] []] [] [] []

theorem mem_ordersQuery_tables {name : String} {t : Option String × String} :
    t ∈ (ordersQuery name).tables ↔ t = (none, name) := by
  have hreferences : (ordersQuery name).references [] = [⟨none, name, []⟩] := rfl
  rw [Select.mem_tables [], hreferences]
  simp only [List.mem_singleton, exists_eq_left]
  exact eq_comm

theorem mem_ordersQuery_readNames {n name : String} :
    n ∈ (ordersQuery name).readNames ↔ n = name := by
  have hnames : (ordersQuery name).cteNames = [] := rfl
  rw [Select.readNames, List.mem_filter, List.mem_map, hnames]
  simp only [mem_ordersQuery_tables, exists_eq_left, List.not_mem_nil, not_false_eq_true,
    decide_true, and_true]
  exact eq_comm

/-- The name is spelled like the table at home, so the other table does not matter. -/
theorem ordersQuery_undisturbed :
    (ordersQuery "orders").analysis ordersTwice "public" =
        (ordersQuery "orders").analysis ordersOnly "public" ∧
      ordersRef ∈ ((ordersQuery "orders").analysis ordersTwice "public").sources := by
  have hspelled : ordersOnly.spelled? "public" "orders" ≠ none := by decide
  obtain ⟨hsources, hsame⟩ := Select.analysis_widened (q := ordersQuery "orders")
    ordersTwice_widened (fun t ht => by rw [mem_ordersQuery_tables.mp ht])
    (fun n hn => by rw [mem_ordersQuery_readNames.mp hn]; exact .inl hspelled)
  refine ⟨hsame fun n hn => ?_, (hsources ordersRef).mpr ⟨"orders", ?_, .inl hspelled, ?_⟩⟩
  · rw [mem_ordersQuery_readNames.mp hn]
    exact .inl hspelled
  · exact mem_ordersQuery_readNames.mpr rfl
  · exact lookup_orders

/-- The name is written in another case, and then the other table takes its meaning away. -/
theorem otherCase_disturbed :
    ∃ q, selectOf (.named "postgres") (some "SELECT id FROM Orders") = .ok q ∧
    (∀ t ∈ q.tables, t = (none, "Orders")) ∧ ordersOnly.FoundAtHome "public" "Orders" ∧
    ordersOnly.Widened "public" ordersTwice ∧
    (q.analysis ordersOnly "public").projections = [.direct ordersRef "id" "id"] ∧
    (q.analysis ordersTwice "public").projections = [.untraced "id"] := by
  have hvalue : (selectOf (.named "postgres") (some "SELECT id FROM Orders")).toOption.map (fun q =>
      (q.references [], (q.analysis ordersOnly "public").projections,
        (q.analysis ordersTwice "public").projections)) =
      some ([⟨none, "Orders", []⟩], [.direct ordersRef "id" "id"], [.untraced "id"]) := by
    decide +kernel
  obtain ⟨q, hq, heq⟩ := ok_of_map_toOption hvalue
  obtain ⟨hreferences, heq⟩ := Prod.mk.inj heq
  obtain ⟨hbefore, hafter⟩ := Prod.mk.inj heq
  refine ⟨q, hq, fun t ht => ?_, .inr ⟨ordersRef, by decide +kernel⟩, ordersTwice_widened, hbefore,
    hafter⟩
  obtain ⟨u, hu, rfl⟩ := (Select.mem_tables []).mp ht
  rw [hreferences, List.mem_singleton] at hu
  rw [hu]
  rfl

end Sql
end SchemaLineage
