import SchemaLineage.Proofs.Extraction.Inventory
/-
A pass in the order of the listing.

What is read for the listed references stands in their order (`Catalog.Listed`).  Where they are all
different the tables that could be built are the entries of that list which hold one, and the result
of a pass has one view for each listed one (`Passed.made`), made from its own rows: whatever the view
copies, it is `View.ofColumns` of its source with columns that the rows describe.
-/

namespace SchemaLineage

def tablesOf (refs : List RelationRef) : List RelationRef := refs.filter fun ref => !ref.isView

def viewsOf (refs : List RelationRef) : List RelationRef := refs.filter fun ref => ref.isView

def Table.ref (t : Table) : RelationRef := ⟨t.schemaName, t.name, .table⟩

def View.ref (v : View) : RelationRef :=
  ⟨v.schemaName, v.name, if v.isMaterialized then .materializedView else .view⟩

theorem Table.ref_of_ofRows {ref : RelationRef} {rows : List ColumnRow}
    {constraints : List ConstraintRow} {comment : Option String} {t : Table}
    (href : ref.isView = false) (h : ofRows ref rows constraints comment = .ok t) : t.ref = ref := by
  obtain ⟨schemaName, name, kind⟩ := ref
  have hkind : kind = .table := by
    cases kind with
    | table => rfl
    | view => cases href
    | materializedView => cases href
  subst hkind
  unfold ofRows at h
  simp only at h
  split at h
  · cases h
  · cases h
    rfl

theorem View.ref_ofColumns {s : ViewSource} (columns : List Column) (href : s.ref.isView = true) :
    (ofColumns s columns).ref = s.ref := by
  obtain ⟨⟨schemaName, name, kind⟩, rows, comment, definition, analysis⟩ := s
  cases kind with
  | table => cases href
  | view => rfl
  | materializedView => rfl

theorem TableOrView.map_view_filterMap {made : List TableOrView}
    (h : ∀ x ∈ made, ∃ v, x = .view v) : (made.filterMap view?).map .view = made := by
  induction made with
  | nil => rfl
  | cons x made ih =>
    obtain ⟨v, rfl⟩ := h x List.mem_cons_self
    show .view v :: (made.filterMap view?).map .view = .view v :: made
    rw [ih fun y hy => h y (List.mem_cons_of_mem _ hy)]

/-! ## What is read -/

/-- The relations that were read, in the order of the listed references. -/
structure Catalog.Listed (c : Catalog) (refs : List RelationRef) (r : Reading) : Prop where
  tables : List.Forall₂ (fun ref t => c.table ref = .ok t) (tablesOf refs) r.tables
  views : List.Forall₂ (fun ref v => c.view ref = .ok v) (viewsOf refs) r.views

namespace Catalog

variable {c : Catalog} {refs : List RelationRef} {r : Reading}

theorem listed_of_read {schemaName : String} (hrefs : c.relations schemaName = .ok refs)
    (h : c.read schemaName = .ok r) :
    c.Listed refs r ∧ c.types schemaName = .ok r.types := by
  obtain ⟨refs', hrefs', h⟩ := bind_ok_inv h
  obtain ⟨types, htypes, h⟩ := bind_ok_inv h
  obtain ⟨tables, htables, h⟩ := bind_ok_inv h
  obtain ⟨views, hviews, h⟩ := bind_ok_inv h
  cases h
  rw [hrefs] at hrefs'
  cases hrefs'
  exact ⟨⟨forall₂_of_together htables, forall₂_of_together hviews⟩, htypes⟩

namespace Listed

theorem tables_refs (h : c.Listed refs r) : r.tables.map (·.1) = tablesOf refs := by
  have hmap : (tablesOf refs).map id = r.tables.map (·.1) :=
    map_eq_of_forall₂ h.tables fun ref t ht => (table_ref ht).symm
  rw [← hmap, List.map_id]

theorem views_refs (h : c.Listed refs r) : r.views.map (·.ref) = viewsOf refs := by
  have hmap : (viewsOf refs).map id = r.views.map (·.ref) :=
    map_eq_of_forall₂ h.views fun ref v hv => (view_ref hv).1.symm
  rw [← hmap, List.map_id]

theorem views_nodup (h : c.Listed refs r) (hnodup : refs.Nodup) :
    (r.views.map (·.ref)).Nodup := by
  rw [h.views_refs]
  exact hnodup.filter _

/-- The tables that could be built are kept apart by their references. -/
theorem built (h : c.Listed refs r) (hnodup : refs.Nodup) :
    r.built = r.tables.filterMap fun t => t.2.toOption.map fun table => (t.1, table) := by
  have hrefs : (r.tables.map (·.1)).Nodup := by
    rw [h.tables_refs]
    exact hnodup.filter _
  refine keyed_of_nodup ?_
  refine List.pairwise_map.mpr (List.Pairwise.filterMap _ ?_ (List.pairwise_map.mp hrefs))
  intro t u hne a ha b hb heq
  obtain ⟨table, -, rfl⟩ := Option.map_eq_some_iff.mp ha
  obtain ⟨table', -, rfl⟩ := Option.map_eq_some_iff.mp hb
  exact hne heq

end Listed
end Catalog

theorem Catalog.table_ok_ref {c : Catalog} {ref ref' : RelationRef} {t : Table}
    (href : ref.isView = false) (h : c.table ref = .ok (ref', .ok t)) : t.ref = ref := by
  obtain ⟨rows, -, h⟩ := bind_ok_inv h
  obtain ⟨constraints, -, h⟩ := bind_ok_inv h
  obtain ⟨comment, -, h⟩ := bind_ok_inv h
  obtain ⟨-, hrows⟩ := Prod.mk.inj (Except.ok.inj h)
  exact Table.ref_of_ofRows href hrows

/-! ## What a pass returns -/

/-- The issue of a view whose definition cannot be analyzed. -/
def Issue.degraded? (known : KnownRelations) (dialect : Sql.Language) (ref : RelationRef)
    (definition : Option String) : Option Issue :=
  match analyzeView known ref dialect definition with
  | .error (.definition f) => some (.degraded ref f)
  | _ => none

namespace Reading

variable {r : Reading} {dialect : Sql.Language}

def degraded? (r : Reading) (dialect : Sql.Language) (v : ViewSource) : Option Issue :=
  Issue.degraded? r.known dialect v.ref v.definition

theorem analyzed_issues {v s : ViewSource} {issues : List Issue}
    (h : r.analyzed dialect v = .ok (s, issues)) : issues = (r.degraded? dialect v).toList := by
  unfold degraded? Issue.degraded?
  unfold analyzed at h
  split at h
  · rename_i a ha
    cases h
    rw [ha]
    rfl
  · rename_i f hf
    cases h
    rw [hf]
    rfl
  · cases h

/-- The result of a pass from what was read, the views that were made and the issues met with them. -/
def extraction (r : Reading) (schemaName : String) (views : List View) (issues : List Issue) :
    Extraction where
  schema := {
    name := schemaName
    tables := r.built.map (·.2)
    views := views
    types := r.types.map CustomType.ofRow }
  issues := r.tables.flatMap Issue.ofTable ++ issues

theorem issues_of_views {views : List View} {issues : List Issue}
    (h : r.viewsWithIssues dialect true = .ok (views, issues)) :
    issues = r.views.filterMap (r.degraded? dialect) := by
  obtain ⟨analyses, hanalyses, h⟩ := bind_ok_inv h
  obtain ⟨views', -, h⟩ := bind_ok_inv h
  cases h
  rw [List.filterMap_eq_flatMap_toList]
  exact (flatMap_eq_of_forall₂ (forall₂_of_mapM hanalyses) fun v p hp =>
    (analyzed_issues hp).symm).symm

end Reading

def Extraction.issuesOf (e : Extraction) (kind : IssueKind) : List Issue :=
  e.issues.filter fun x => x.kind = kind

namespace Catalog

variable {c : Catalog} {schemaName : String} {resolve : Bool} {r : Reading} {e : Extraction}

def degraded? (c : Catalog) (known : KnownRelations) (ref : RelationRef) : Option Issue :=
  (c.definition ref).toOption.bind (Issue.degraded? known c.dialect ref)

theorem degraded?_of_view {ref : RelationRef} {v : ViewSource} (h : c.view ref = .ok v) :
    c.degraded? r.known ref = r.degraded? c.dialect v := by
  obtain ⟨rows, -, h⟩ := bind_ok_inv h
  obtain ⟨comment, -, h⟩ := bind_ok_inv h
  obtain ⟨definition, hdefinition, h⟩ := bind_ok_inv h
  cases h
  rw [degraded?, hdefinition, Reading.degraded?]
  exact Option.bind_some ..

theorem Listed.degraded {refs : List RelationRef} (h : c.Listed refs r) :
    r.views.filterMap (r.degraded? c.dialect) = (viewsOf refs).filterMap (c.degraded? r.known) :=
  (filterMap_eq_of_forall₂ h.views fun _ _ hv => degraded?_of_view hv).symm

theorem pass_of_read (h : c.read schemaName = .ok r) :
    c.pass schemaName resolve = (r.viewsWithIssues c.dialect resolve).map
      fun p => r.extraction schemaName p.1 p.2 := by
  unfold pass
  rw [h]
  cases hviews : r.viewsWithIssues c.dialect resolve with
  | error f => simp only [Except.mapError, bind, Except.bind, hviews]; rfl
  | ok p => simp only [Except.mapError, bind, Except.bind, hviews]; rfl

theorem pass_of_unread {f : CatalogFault} (h : c.read schemaName = .error f) :
    c.pass schemaName resolve = .error (.catalog f) := by
  unfold pass
  rw [h]
  rfl

theorem read_of_pass (h : c.pass schemaName resolve = .ok e) :
    ∃ r, c.read schemaName = .ok r := by
  cases hread : c.read schemaName with
  | error f =>
    rw [pass_of_unread hread] at h
    cases h
  | ok r => exact ⟨r, rfl⟩

theorem extraction_of_read (hread : c.read schemaName = .ok r)
    (h : c.pass schemaName resolve = .ok e) :
    ∃ views issues, r.viewsWithIssues c.dialect resolve = .ok (views, issues) ∧
      e = r.extraction schemaName views issues := by
  rw [pass_of_read hread] at h
  cases hviews : r.viewsWithIssues c.dialect resolve with
  | error f =>
    rw [hviews] at h
    cases h
  | ok p =>
    rw [hviews] at h
    cases h
    exact ⟨p.1, p.2, rfl, rfl⟩

theorem passed_of_read (hread : c.read schemaName = .ok r) (h : c.pass schemaName true = .ok e) :
    ∃ i, c.Passed schemaName r i e := by
  obtain ⟨r', i, hpassed⟩ := passed_of_pass h
  have hsame := hpassed.read
  rw [hread] at hsame
  cases hsame
  exact ⟨i, hpassed⟩

namespace Passed

variable {i : Inventory}

theorem viewRefs_eq (h : c.Passed schemaName r i e) (hnodup : (r.views.map (·.ref)).Nodup) :
    i.viewRefs = r.views.map (·.ref) := by
  have hrefs : i.views.map (·.ref) = r.views.map (·.ref) := by
    have hnames := congrArg (List.map Prod.fst) (Reading.names_of_inventory? h.inventory)
    rwa [List.map_map, List.map_map] at hnames
  rw [Inventory.viewRefs, hrefs, eraseDups_of_nodup hnodup]

/-- The result has one view for each that was read. -/
theorem made (h : c.Passed schemaName r i e) (hnodup : (r.views.map (·.ref)).Nodup) :
    List.Forall₂ (fun s v => s ∈ r.views ∧ i.plainFrom [] s.ref = .ok (some (.view v)))
      r.views e.schema.views := by
  obtain ⟨made, hmade, hviews⟩ := h.views
  have hplain := Inventory.resolveAll_on_ok h.declared Inventory.Sound.nil hmade
  rw [h.viewRefs_eq hnodup, List.map_map, ← List.forall₂_eq_eq_eq, List.forall₂_map_left_iff,
    List.forall₂_map_right_iff] at hplain
  have hall : ∀ x ∈ made, ∃ v, x = .view v := by
    intro x hx
    obtain ⟨s, hs, hsx⟩ := exists_of_mem_left hplain hx
    obtain ⟨s', issues, hview, -⟩ := Reading.view?_of_mem h.sorted h.inventory hs
    have htable := Reading.table?_eq_none h.sorted h.inventory (h.sorted.views s hs)
    obtain ⟨-, v, -, hv⟩ := Inventory.plainFrom_view_ok htable hview hsx.symm
    cases hv
    exact ⟨v, rfl⟩
  have hmap : e.schema.views.map .view = made := by
    rw [hviews]
    exact TableOrView.map_view_filterMap hall
  rw [← hmap, List.forall₂_map_left_iff] at hplain
  refine (List.forall₂_and_left _ _).mpr ⟨fun s hs => hs, ?_⟩
  exact hplain.flip.imp fun s v hv => hv.symm

/-- A view of the result is made from the rows that were read, and from its definition where that
could be analyzed. -/
theorem run_of_made (h : c.Passed schemaName r i e) {w : ViewSource} {v : View} (hw : w ∈ r.views)
    (hv : i.plainFrom [] w.ref = .ok (some (.view v))) :
    ∃ s issues, i.view? w.ref = some s ∧ r.analyzed c.dialect w = .ok (s, issues) ∧
      (View.questions s).run (i.plainFrom [w.ref]) = .ok v := by
  obtain ⟨s, issues, hs, hanalyzed⟩ := Reading.view?_of_mem h.sorted h.inventory hw
  have htable := Reading.table?_eq_none h.sorted h.inventory (h.sorted.views w hw)
  obtain ⟨-, v', hrun, hv'⟩ := Inventory.plainFrom_view_ok htable hs hv
  cases hv'
  exact ⟨s, issues, hs, hanalyzed, hrun⟩

theorem ref_of_made (h : c.Passed schemaName r i e) {w : ViewSource} {v : View} (hw : w ∈ r.views)
    (hv : i.plainFrom [] w.ref = .ok (some (.view v))) : v.ref = w.ref := by
  obtain ⟨s, issues, -, hanalyzed, hrun⟩ := h.run_of_made hw hv
  have href := Reading.analyzed_ref hanalyzed
  have hview : s.ref.isView = true := by
    rw [href]
    exact h.sorted.views w hw
  rw [View.eq_ofColumns_of_run hrun, View.ref_ofColumns _ hview, href]

end Passed
end Catalog
end SchemaLineage
