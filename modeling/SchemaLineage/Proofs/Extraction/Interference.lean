import SchemaLineage.Proofs.Extraction.Accounting
import SchemaLineage.Proofs.Lineage.Locality
import SchemaLineage.Proofs.View.Locality
/-
What a change of one relation can change.

Two catalogs that differ in the rows of one relation lead to readings that differ at most there
(`agree_of_listed`), then to inventories that agree but for it and the views that say to read it
(`inventory_agree`), and so to the same views wherever no walk along the relations that views depend
on leads to it.

The relation must be there both times.  A table that is skipped is not known, and with it the meaning
of names would change.
-/

namespace SchemaLineage

/-- The same entry; or two that stand for the relation `x`. -/
structure SameBut {σ : Type} (x : RelationRef) (key : σ → RelationRef) (s s' : σ) : Prop where
  key_eq : key s = key s'
  same : key s ≠ x → s = s'

variable {x : RelationRef}

theorem SameBut.symm {σ : Type} {key : σ → RelationRef} {s s' : σ} (h : SameBut x key s s') :
    SameBut x key s' s :=
  ⟨h.key_eq.symm, fun hne => (h.same (h.key_eq ▸ hne)).symm⟩

theorem forall₂_keyed_sameBut {σ β : Type} {key : σ → RelationRef} {l l' : List σ}
    (h : List.Forall₂ (SameBut x key) l l') (value : σ → β) :
    List.Forall₂ (SameBut x Prod.fst) (l.map fun s => (key s, value s))
      (l'.map fun s => (key s, value s)) := by
  rw [List.forall₂_map_left_iff, List.forall₂_map_right_iff]
  refine h.imp fun s s' hs => ⟨hs.key_eq, fun hne => ?_⟩
  rw [hs.same hne]

theorem lookup_eq_of_sameBut {β : Type} {l l' : List (RelationRef × β)} {ref : RelationRef}
    (h : List.Forall₂ (SameBut x Prod.fst) l l') (hne : ref ≠ x) : l.lookup ref = l'.lookup ref := by
  induction h with
  | nil => rfl
  | @cons p p' l l' hp _ ih =>
    by_cases hx : p.1 = x
    · have hkey : (ref == p.1) = false := beq_eq_false_iff_ne.mpr fun heq => hne (heq.trans hx)
      have hkey' : (ref == p'.1) = false := hp.key_eq ▸ hkey
      rw [List.lookup_cons, List.lookup_cons, hkey, hkey']
      exact ih
    · rw [hp.same hx, List.lookup_cons, List.lookup_cons, ih]

namespace KnownRelations

theorem agree_keyed {l l' : List (RelationRef × List String)}
    (h : List.Forall₂ (SameBut x Prod.fst) l l') : AgreeBut x (keyed l) (keyed l') := by
  constructor
  · rw [keys_keyed, keys_keyed, map_eq_of_forall₂ h fun _ _ hp => hp.key_eq]
  · intro ref hne
    rw [columns?, columns?, lookup_keyed, lookup_keyed]
    exact lookup_eq_of_sameBut (List.forall₂_reverse_iff.mpr h) hne

end KnownRelations

/-! ## Readings -/

/-- The same tables that could be built and the same views, but for one relation. -/
structure Reading.AgreeBut (x : RelationRef) (r r' : Reading) : Prop where
  built : List.Forall₂ (SameBut x Prod.fst) r.built r'.built
  views : List.Forall₂ (SameBut x ViewSource.ref) r.views r'.views

namespace Reading

variable {r r' : Reading} {dialect : Sql.Language} {i i' : Inventory}

theorem AgreeBut.known (h : r.AgreeBut x r') : r.known.AgreeBut x r'.known := by
  have hbuilt := forall₂_keyed_sameBut h.built fun t => t.2.columns.map (·.name)
  have hviews := forall₂_keyed_sameBut h.views ViewSource.columnNames
  exact KnownRelations.agree_keyed (List.rel_append hbuilt hviews)

theorem AgreeBut.view_mem (h : r.AgreeBut x r') {v : ViewSource} (hv : v ∈ r.views)
    (hne : v.ref ≠ x) : v ∈ r'.views := by
  obtain ⟨v', hv', hsame⟩ := exists_of_mem_left h.views hv
  rw [hsame.same hne]
  exact hv'

theorem AgreeBut.symm (h : r.AgreeBut x r') : r'.AgreeBut x r :=
  ⟨h.built.flip.imp fun _ _ hs => hs.symm, h.views.flip.imp fun _ _ hs => hs.symm⟩

/-- A view that does not read `x` is analyzed as before. -/
theorem analyzed_agree (h : r.AgreeBut x r') {v s : ViewSource} {issues : List Issue}
    (hs : r.analyzed dialect v = .ok (s, issues)) (hx : x ∉ s.sources) :
    r'.analyzed dialect v = .ok (s, issues) := by
  unfold analyzed at hs ⊢
  cases ha : analyzeView r.known v.ref dialect v.definition with
  | ok a =>
    rw [ha] at hs
    cases hs
    rw [analyzeView_agree h.known ha hx]
  | error e =>
    rw [ha] at hs
    rw [analyzeView_error r'.known ha]
    exact hs

theorem inventory_agree (hr : r.Sorted) (hr' : r'.Sorted) (h : r.AgreeBut x r')
    (hi : r.inventory? dialect = .ok i) (hi' : r'.inventory? dialect = .ok i') :
    i.AgreeBut x i' := by
  constructor
  case tables =>
    intro ref hne
    rw [Inventory.table?, Inventory.table?, (inventory?_ok hi).1, (inventory?_ok hi').1]
    exact lookup_eq_of_sameBut (List.forall₂_reverse_iff.mpr h.built) hne
  case absent =>
    intro ref hne hnone
    cases hs : i'.view? ref with
    | none => rfl
    | some s =>
      obtain ⟨v, hv, rfl, -⟩ := exists_view_of_view? hi' hs
      obtain ⟨s', -, hs', -⟩ := view?_of_mem hr hi (h.symm.view_mem hv hne)
      rw [hnone] at hs'
      cases hs'
  case views =>
    intro ref hne s hs hx
    obtain ⟨v, hv, rfl, issues, hanalyzed⟩ := exists_view_of_view? hi hs
    obtain ⟨s', issues', hs', hanalyzed'⟩ := view?_of_mem hr' hi' (h.view_mem hv hne)
    rw [analyzed_agree h hanalyzed hx] at hanalyzed'
    cases hanalyzed'
    exact hs'

end Reading

/-- Whether a view is reported depends on its definition alone. -/
theorem Issue.degraded?_agree (known known' : KnownRelations) (dialect : Sql.Language)
    (ref : RelationRef) (definition : Option String) :
    degraded? known dialect ref definition = degraded? known' dialect ref definition := by
  unfold degraded? analyzeView
  cases selectOf dialect definition with
  | error e => rfl
  | ok q => rfl

/-! ## Catalogs -/

/-- A view of the schema depends on another relation. -/
def Schema.DependsOn (s : Schema) (ref other : RelationRef) : Prop :=
  ∃ v ∈ s.views, v.ref = ref ∧ other ∈ v.dependsOn

namespace Catalog

variable {c c' : Catalog} {schemaName : String} {refs : List RelationRef} {r r' : Reading}
  {i i' : Inventory} {e e' : Extraction}

/-- The same answers to all questions about relations but for `x`. -/
structure AgreeBut (x : RelationRef) (c c' : Catalog) : Prop where
  dialect : c.dialect = c'.dialect
  columns : ∀ ref, ref ≠ x → c.columns ref = c'.columns ref
  constraints : ∀ ref, ref ≠ x → c.constraints ref = c'.constraints ref
  comment : ∀ ref, ref ≠ x → c.comment ref = c'.comment ref
  definition : ∀ ref, ref ≠ x → c.definition ref = c'.definition ref

theorem AgreeBut.table (h : c.AgreeBut x c') {ref : RelationRef} (hne : ref ≠ x) :
    c.table ref = c'.table ref := by
  simp only [Catalog.table, h.columns ref hne, h.constraints ref hne, h.comment ref hne]

theorem AgreeBut.view (h : c.AgreeBut x c') {ref : RelationRef} (hne : ref ≠ x) :
    c.view ref = c'.view ref := by
  simp only [Catalog.view, h.columns ref hne, h.comment ref hne, h.definition ref hne]

theorem AgreeBut.degraded? (h : c.AgreeBut x c') (known known' : KnownRelations)
    {ref : RelationRef} (hne : ref ≠ x) : c.degraded? known ref = c'.degraded? known' ref := by
  rw [Catalog.degraded?, Catalog.degraded?, h.dialect, h.definition ref hne]
  exact congrArg _ (funext fun definition => Issue.degraded?_agree ..)

/-- A listed table of which the result has only an issue. -/
def Skips (c : Catalog) (refs : List RelationRef) (ref : RelationRef) : Prop :=
  ref ∈ tablesOf refs ∧ (c.mismatch? ref).isSome

theorem ok_of_not_skips {ref : RelationRef} {t : RelationRef × Except Mismatch Table}
    (hx : ¬ c.Skips refs ref) (href : ref ∈ tablesOf refs) (ht : c.table ref = .ok t) :
    ∃ table, t.2 = .ok table := by
  obtain ⟨ref', outcome⟩ := t
  cases outcome with
  | ok table => exact ⟨table, rfl⟩
  | error m =>
    refine absurd ⟨href, ?_⟩ hx
    rw [mismatch?, outcome?_eq ht]
    rfl

theorem agree_of_listed (hsame : c.AgreeBut x c') (h : c.Listed refs r) (h' : c'.Listed refs r')
    (hnodup : refs.Nodup) (hx : ¬ c.Skips refs x) (hx' : ¬ c'.Skips refs x) :
    r.AgreeBut x r' := by
  constructor
  case views =>
    refine forall₂_of_common h.views h'.views fun ref _ v v' hv hv' => ?_
    have hkey := (view_ref hv).1
    refine ⟨hkey.trans (view_ref hv').1.symm, fun hne => ?_⟩
    rw [hkey] at hne
    rw [hsame.view hne, hv'] at hv
    exact (Except.ok.inj hv).symm
  case built =>
    rw [h.built hnodup, h'.built hnodup]
    have htables : List.Forall₂ (fun t t' => Option.Rel (SameBut x Prod.fst)
        (t.2.toOption.map fun table => (t.1, table))
        (t'.2.toOption.map fun table => (t'.1, table))) r.tables r'.tables := by
      refine forall₂_of_common h.tables h'.tables fun ref href t t' ht ht' => ?_
      by_cases hne : ref = x
      · -- Both are kept, which is all that their entries need to have in common.
        subst hne
        obtain ⟨table, hok⟩ := ok_of_not_skips hx href ht
        obtain ⟨table', hok'⟩ := ok_of_not_skips hx' href ht'
        rw [hok, hok']
        have hkey : t.1 = t'.1 := (table_ref ht).trans (table_ref ht').symm
        exact .some ⟨hkey, fun hne => absurd (table_ref ht) hne⟩
      · rw [hsame.table hne, ht'] at ht
        cases ht
        cases t.2.toOption with
        | none => exact .none
        | some table => exact .some ⟨rfl, fun _ => rfl⟩
    exact List.rel_filterMap (fun _ _ ht => ht) htables

/-- What the sources of a view say is what the view of the result depends on. -/
theorem Passed.dependsOn_of_reads (h : c.Passed schemaName r i e)
    (hnodup : (r.views.map (·.ref)).Nodup) {ref other : RelationRef} (hreads : i.Reads ref other) :
    e.schema.DependsOn ref other := by
  obtain ⟨s, hs, hother⟩ := hreads
  obtain ⟨w, hw, rfl, -⟩ := Reading.exists_view_of_view? h.inventory hs
  obtain ⟨v, hv, -, hmade⟩ := exists_of_mem_left (h.made hnodup) hw
  obtain ⟨s', issues, hs', -, hrun⟩ := h.run_of_made hw hmade
  rw [hs] at hs'
  cases hs'
  refine ⟨v, hv, h.ref_of_made hw hmade, ?_⟩
  rw [View.eq_ofColumns_of_run hrun]
  exact hother

/-- A view from which `x` is not reached is made as before. -/
theorem Passed.views_agree (h : c.Passed schemaName r i e) (h' : c'.Passed schemaName r' i' e')
    (hdialect : c.dialect = c'.dialect) (hagree : r.AgreeBut x r')
    (hnodup : (r.views.map (·.ref)).Nodup) (hnodup' : (r'.views.map (·.ref)).Nodup) {k : Nat}
    {v : View} (hv : e.schema.views[k]? = some v)
    (hfar : ¬ Relation.ReflTransGen e.schema.DependsOn v.ref x) : e'.schema.views[k]? = some v := by
  obtain ⟨w, hw, hmem, hplain⟩ := getElem?_of_forall₂ (h.made hnodup).flip hv
  have href := h.ref_of_made hmem hplain
  rw [href] at hfar
  have hne : w.ref ≠ x := by
    rintro rfl
    exact hfar .refl
  obtain ⟨w', hw', hsame⟩ := getElem?_of_forall₂ hagree.views hw
  have heq := hsame.same hne
  subst heq
  obtain ⟨v', hv', -, hplain'⟩ := getElem?_of_forall₂ (h'.made hnodup') hw'
  have hinventory : r'.inventory? c.dialect = .ok i' := hdialect ▸ h'.inventory
  have hreach : ¬ Relation.ReflTransGen i.Reads w.ref x := by
    intro hwalk
    exact hfar (Relation.ReflTransGen.mono (fun _ _ => h.dependsOn_of_reads hnodup) _ _ hwalk)
  have hmade := Inventory.plainFrom_agree
    (Reading.inventory_agree h.sorted h'.sorted hagree h.inventory hinventory)
    (Reading.read_subset_of_inventory? h.sorted h.inventory) hplain hreach
  rw [hplain'] at hmade
  cases hmade
  exact hv'

/-- A relation that changes, and is not skipped, changes only the views from which it is reached
through the relations that views depend on. -/
theorem pass_noninterference (hsame : c.AgreeBut x c') (hrefs : c.relations schemaName = .ok refs)
    (hrefs' : c'.relations schemaName = .ok refs) (hnodup : refs.Nodup)
    (hx : ¬ c.Skips refs x) (hx' : ¬ c'.Skips refs x)
    (h : c.pass schemaName true = .ok e) (h' : c'.pass schemaName true = .ok e') :
    ∃ r r', c.read schemaName = .ok r ∧ c'.read schemaName = .ok r' ∧
      e.schema.views.map View.ref = viewsOf refs ∧ e'.schema.views.map View.ref = viewsOf refs ∧
      e.issuesOf .degradedView = (viewsOf refs).filterMap (c.degraded? r.known) ∧
      e'.issuesOf .degradedView = (viewsOf refs).filterMap (c'.degraded? r'.known) ∧
      ∀ (k : Nat) (v : View), e.schema.views[k]? = some v →
        ¬ Relation.ReflTransGen e.schema.DependsOn v.ref x →
        e'.schema.views[k]? = some v ∧
          c.degraded? r.known v.ref = c'.degraded? r'.known v.ref := by
  obtain ⟨r, hread⟩ := read_of_pass h
  obtain ⟨r', hread'⟩ := read_of_pass h'
  have haccounted := accounted_of_read hrefs hnodup hread h
  have haccounted' := accounted_of_read hrefs' hnodup hread' h'
  obtain ⟨i, hpassed⟩ := passed_of_read hread h
  obtain ⟨i', hpassed'⟩ := passed_of_read hread' h'
  obtain ⟨hlisted, -⟩ := listed_of_read hrefs hread
  obtain ⟨hlisted', -⟩ := listed_of_read hrefs' hread'
  have hagree := agree_of_listed hsame hlisted hlisted' hnodup hx hx'
  refine ⟨r, r', hread, hread', haccounted.views, haccounted'.views, haccounted.degraded,
    haccounted'.degraded, fun k v hv hfar => ⟨?_, ?_⟩⟩
  · exact hpassed.views_agree hpassed' hsame.dialect hagree (hlisted.views_nodup hnodup)
      (hlisted'.views_nodup hnodup) hv hfar
  · refine hsame.degraded? r.known r'.known fun heq => hfar ?_
    rw [heq]

def twoTablesRefs : List RelationRef :=
  [⟨"s", "t", .table⟩, ⟨"s", "u", .table⟩, ⟨"s", "v", .view⟩]

/-- Two tables, the second of which may have another column, and a view over the first one. -/
def twoTables (name : String) : Catalog where
  dialect := .named "postgres"
  relations _ := .ok twoTablesRefs
  types _ := .ok []
  columns ref :=
    .ok [{ name := if ref = ⟨"s", "u", .table⟩ then name else "id", ordinalPosition := 1 }]
  constraints _ := .ok []
  comment _ := .ok none
  definition _ := .ok (some "SELECT id FROM t")

theorem twoTables_noninterference : twoTablesRefs.Nodup ∧
    ∃ e e' v, (twoTables "id").pass "s" true = .ok e ∧ (twoTables "key").pass "s" true = .ok e' ∧
      ¬ Relation.ReflTransGen e.schema.DependsOn v.ref ⟨"s", "u", .table⟩ ∧
      e.schema.views[0]? = some v ∧ e'.schema.views[0]? = some v := by
  have hnodup : twoTablesRefs.Nodup := by decide
  have hsame : (twoTables "id").AgreeBut ⟨"s", "u", .table⟩ (twoTables "key") := by
    refine ⟨rfl, fun ref hne => ?_, fun _ _ => rfl, fun _ _ => rfl, fun _ _ => rfl⟩
    simp only [twoTables, if_neg hne]
  have hkept : ∀ name, name = "id" ∨ name = "key" →
      ¬ (twoTables name).Skips twoTablesRefs ⟨"s", "u", .table⟩ := by
    rintro name (rfl | rfl) ⟨-, hskips⟩
    · revert hskips
      decide +kernel
    · revert hskips
      decide +kernel
  have hvalue : ((twoTables "id").pass "s" true).toOption.map (fun e =>
      e.schema.views.map fun v => (v.ref, v.dependsOn)) =
      some [(⟨"s", "v", .view⟩, [⟨"s", "t", .table⟩])] := by
    decide +kernel
  have hok : ((twoTables "key").pass "s" true).isOk := by decide +kernel
  cases he : (twoTables "id").pass "s" true with
  | error f => rw [he] at hvalue; cases hvalue
  | ok e =>
    cases he' : (twoTables "key").pass "s" true with
    | error f => rw [he'] at hok; cases hok
    | ok e' =>
      rw [he] at hvalue
      obtain ⟨v, hviews, hv⟩ := List.map_eq_singleton_iff.mp (Option.some.inj hvalue)
      obtain ⟨href, hreads⟩ := Prod.mk.inj hv
      have hfar : ¬ Relation.ReflTransGen e.schema.DependsOn v.ref ⟨"s", "u", .table⟩ := by
        have hdepends : ∀ ref other, e.schema.DependsOn ref other →
            ref = ⟨"s", "v", .view⟩ ∧ other = ⟨"s", "t", .table⟩ := by
          rintro ref other ⟨w, hw, rfl, hother⟩
          rw [hviews] at hw
          rw [List.mem_singleton.mp hw] at hother ⊢
          rw [hreads] at hother
          exact ⟨href, List.mem_singleton.mp hother⟩
        rw [href]
        intro hwalk
        rcases hwalk.cases_head with heq | ⟨other, hother, hwalk⟩
        · exact absurd heq (by decide)
        · rw [(hdepends _ _ hother).2] at hwalk
          rcases hwalk.cases_head with heq | ⟨other, hother, -⟩
          · exact absurd heq (by decide)
          · exact absurd (hdepends _ _ hother).1 (by decide)
      obtain ⟨r, r', -, -, -, -, -, -, hagree⟩ := pass_noninterference hsame rfl rfl hnodup
        (hkept _ (.inl rfl)) (hkept _ (.inr rfl)) he he'
      have hfirst : e.schema.views[0]? = some v := by rw [hviews]; rfl
      exact ⟨hnodup, e, e', v, rfl, rfl, hfar, hfirst, (hagree 0 v hfirst hfar).1⟩

end Catalog
end SchemaLineage
