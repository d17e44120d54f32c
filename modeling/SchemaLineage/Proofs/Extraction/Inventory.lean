import SchemaLineage.Extraction.Pass
import SchemaLineage.Proofs.Lineage.Acyclic
import SchemaLineage.Proofs.Lineage.Provenance
import SchemaLineage.Proofs.View.Origins
/-
The inventory of a pass.

A pass shows the same relations to two readers.  Definitions are analyzed against the names that are
known before any view is made (`Reading.known`), and views are made from an inventory of tables and
analyzed views (`Reading.inventory?`).  The names agree, since a reference tells by its kind whether
it is a table's or a view's, and an analysis changes no row (`columns?_known`).  What an analysis
follows it declares, so the inventory is one whose circles are all found before a view is made
(`declared_of_inventory?`).
-/

namespace SchemaLineage

/-! ## What a pass reads -/

/-- Tables and views are told apart by their references, a reference tells all of its view, and no
definition has been looked at. -/
structure Reading.Sorted (r : Reading) : Prop where
  tables : ∀ t ∈ r.tables, t.1.isView = false
  views : ∀ v ∈ r.views, v.ref.isView = true
  same : ∀ v ∈ r.views, ∀ w ∈ r.views, v.ref = w.ref → v = w
  unanalyzed : ∀ v ∈ r.views, v.analysis = none

namespace Catalog

variable {c : Catalog} {ref : RelationRef}

theorem table_ref {t : RelationRef × Except Mismatch Table} (h : c.table ref = .ok t) :
    t.1 = ref := by
  obtain ⟨rows, -, h⟩ := bind_ok_inv h
  obtain ⟨constraints, -, h⟩ := bind_ok_inv h
  obtain ⟨comment, -, h⟩ := bind_ok_inv h
  cases h
  rfl

theorem view_ref {v : ViewSource} (h : c.view ref = .ok v) : v.ref = ref ∧ v.analysis = none := by
  obtain ⟨rows, -, h⟩ := bind_ok_inv h
  obtain ⟨comment, -, h⟩ := bind_ok_inv h
  obtain ⟨definition, -, h⟩ := bind_ok_inv h
  cases h
  exact ⟨rfl, rfl⟩

theorem forall₂_of_together {α β : Type} {f : α → Reply β} {as : List α} {bs : List β}
    (h : Reply.together (as.map f) = .ok bs) : List.Forall₂ (fun a b => f a = .ok b) as bs := by
  have hmap := (Reply.together_ok_iff _ _).mp h
  rwa [← List.forall₂_eq_eq_eq, List.forall₂_map_left_iff, List.forall₂_map_right_iff] at hmap

theorem sorted_of_read {schemaName : String} {r : Reading} (h : c.read schemaName = .ok r) :
    r.Sorted := by
  obtain ⟨refs, -, h⟩ := bind_ok_inv h
  obtain ⟨types, -, h⟩ := bind_ok_inv h
  obtain ⟨tables, htables, h⟩ := bind_ok_inv h
  obtain ⟨views, hviews, h⟩ := bind_ok_inv h
  cases h
  have hview : ∀ v ∈ views, v.ref.isView = true ∧ c.view v.ref = .ok v := by
    intro v hv
    obtain ⟨ref, href, hread⟩ := exists_of_mem_right (forall₂_of_together hviews) hv
    rw [(view_ref hread).1]
    exact ⟨(List.mem_filter.mp href).2, hread⟩
  refine ⟨fun t ht => ?_, fun v hv => (hview v hv).1, fun v hv w hw heq => ?_,
    fun v hv => (view_ref (hview v hv).2).2⟩
  · obtain ⟨ref, href, hread⟩ := exists_of_mem_right (forall₂_of_together htables) ht
    rw [table_ref hread]
    simpa using (List.mem_filter.mp href).2
  · have hread := (hview v hv).2
    rw [heq, (hview w hw).2] at hread
    cases hread
    rfl

end Catalog

/-! ## What views are made from -/

namespace Reading

variable {r : Reading} {dialect : Sql.Language} {i : Inventory}

/-- The tables and the analyzed views of a pass. -/
def inventory? (r : Reading) (dialect : Sql.Language) : Except ExtractionError Inventory :=
  (r.views.mapM (r.analyzed dialect)).map fun analyses => ⟨r.built, analyses.map (·.1)⟩

theorem analyzed_ok {v s : ViewSource} {issues : List Issue}
    (h : r.analyzed dialect v = .ok (s, issues)) :
    (∃ a, analyzeView r.known v.ref dialect v.definition = .ok a ∧
      s = { v with analysis := some a }) ∨
    (∃ f, analyzeView r.known v.ref dialect v.definition = .error (.definition f) ∧ s = v) := by
  unfold analyzed at h
  split at h
  · rename_i a ha
    cases h
    exact .inl ⟨a, ha, rfl⟩
  · rename_i f hf
    cases h
    exact .inr ⟨f, hf, rfl⟩
  · cases h

theorem inventory?_ok (h : r.inventory? dialect = .ok i) :
    i.tables = r.built ∧ List.Forall₂
      (fun v s => ∃ issues, r.analyzed dialect v = .ok (s, issues)) r.views i.views := by
  unfold inventory? at h
  cases hanalyses : r.views.mapM (r.analyzed dialect) with
  | error e => rw [hanalyses] at h; cases h
  | ok analyses =>
    rw [hanalyses] at h
    cases h
    refine ⟨rfl, ?_⟩
    rw [List.forall₂_map_right_iff]
    exact (forall₂_of_mapM hanalyses).imp fun v p hp => ⟨p.2, hp⟩

section Inventory

variable {ref : RelationRef}

/-- An analysis changes neither the reference nor the rows of a view. -/
theorem names_of_inventory? (h : r.inventory? dialect = .ok i) :
    i.views.map (fun s => (s.ref, s.columnNames)) =
      r.views.map fun v => (v.ref, v.columnNames) := by
  refine (map_eq_of_forall₂ (inventory?_ok h).2 fun v s hs => ?_).symm
  obtain ⟨issues, hs⟩ := hs
  rcases analyzed_ok hs with ⟨a, -, rfl⟩ | ⟨f, -, rfl⟩ <;> rfl

theorem mem_built {t : RelationRef × Table} (h : t ∈ r.built) : (t.1, .ok t.2) ∈ r.tables := by
  obtain ⟨entry, hentry, ht⟩ := List.mem_filterMap.mp (mem_of_mem_keyed h)
  obtain ⟨ref, outcome⟩ := entry
  cases outcome with
  | error m => cases ht
  | ok table =>
    cases ht
    exact hentry

theorem isView_of_table? (hr : r.Sorted) (h : r.inventory? dialect = .ok i) {t : Table}
    (ht : i.table? ref = some t) : ref.isView = false := by
  rw [Inventory.table?, (inventory?_ok h).1] at ht
  obtain ⟨before, after, heq, -⟩ := List.lookup_eq_some_iff.mp ht
  have hmem : (ref, t) ∈ r.built.reverse := heq ▸ List.mem_append_right before List.mem_cons_self
  exact hr.tables _ (mem_built (List.mem_reverse.mp hmem))

theorem analyzed_ref {v s : ViewSource} {issues : List Issue}
    (h : r.analyzed dialect v = .ok (s, issues)) : s.ref = v.ref := by
  rcases analyzed_ok h with ⟨a, -, rfl⟩ | ⟨f, -, rfl⟩ <;> rfl

theorem exists_view_of_view? (h : r.inventory? dialect = .ok i) {s : ViewSource}
    (hs : i.view? ref = some s) :
    ∃ v ∈ r.views, v.ref = ref ∧ ∃ issues, r.analyzed dialect v = .ok (s, issues) := by
  obtain ⟨hmem, href⟩ := Inventory.mem_of_view? hs
  obtain ⟨v, hv, issues, hanalyzed⟩ := exists_of_mem_right (inventory?_ok h).2 hmem
  exact ⟨v, hv, (analyzed_ref hanalyzed).symm.trans href, issues, hanalyzed⟩

/-- A view that was read is made from what its analysis says. -/
theorem view?_of_mem (hr : r.Sorted) (h : r.inventory? dialect = .ok i) {v : ViewSource}
    (hv : v ∈ r.views) :
    ∃ s issues, i.view? v.ref = some s ∧ r.analyzed dialect v = .ok (s, issues) := by
  obtain ⟨s, hs, issues, hanalyzed⟩ := exists_of_mem_left (inventory?_ok h).2 hv
  have hlisted : (i.view? v.ref).isSome := by
    rw [Inventory.view?, List.find?_isSome]
    exact ⟨s, List.mem_reverse.mpr hs, decide_eq_true (analyzed_ref hanalyzed)⟩
  obtain ⟨s', hs'⟩ := Option.isSome_iff_exists.mp hlisted
  obtain ⟨w, hw, href, issues', hanalyzed'⟩ := exists_view_of_view? h hs'
  rw [hr.same w hw v hv href] at hanalyzed'
  exact ⟨s', issues', hs', hanalyzed'⟩

theorem isView_of_view? (hr : r.Sorted) (h : r.inventory? dialect = .ok i) {s : ViewSource}
    (hs : i.view? ref = some s) : ref.isView = true := by
  obtain ⟨v, hv, rfl, -⟩ := exists_view_of_view? h hs
  exact hr.views v hv

theorem table?_eq_none (hr : r.Sorted) (h : r.inventory? dialect = .ok i)
    (href : ref.isView = true) : i.table? ref = none := by
  cases ht : i.table? ref with
  | none => rfl
  | some t =>
    rw [isView_of_table? hr h ht] at href
    cases href

theorem read_subset_of_inventory? (hr : r.Sorted) (h : r.inventory? dialect = .ok i) :
    ∀ s ∈ i.views, s.read ⊆ s.sources := by
  intro s hs ref href
  obtain ⟨v, hv, issues, hanalyzed⟩ := exists_of_mem_right (inventory?_ok h).2 hs
  rcases analyzed_ok hanalyzed with ⟨a, ha, rfl⟩ | ⟨f, hf, rfl⟩
  · obtain ⟨p, hp, hsource⟩ := List.mem_filterMap.mp href
    exact source_mem_of_analyzeView ha p hp ref hsource
  · rw [ViewSource.read, ViewSource.projections, hr.unanalyzed _ hv] at href
    cases href

theorem declared_of_inventory? (hr : r.Sorted) (h : r.inventory? dialect = .ok i) : i.Declared :=
  fun s hs _ href _ => read_subset_of_inventory? hr h s hs href

end Inventory
end Reading

/-! ## What a pass returns -/

/-- Tables are searched before views. -/
def Schema.relations (s : Schema) : List TableOrView :=
  s.tables.map .table ++ s.views.map .view

namespace Catalog

open Resolving

/-- A pass that follows columns: what it has read, what it has made the views from, and what it
returns. -/
structure Passed (c : Catalog) (schemaName : String) (r : Reading) (i : Inventory)
    (e : Extraction) : Prop where
  read : c.read schemaName = .ok r
  inventory : r.inventory? c.dialect = .ok i
  tables : e.schema.tables = r.built.map (·.2)
  views : ∃ made, (i.resolveAll.on []).1 = .ok made ∧
    e.schema.views = made.filterMap TableOrView.view?

theorem passed_of_pass {c : Catalog} {schemaName : String} {e : Extraction}
    (h : c.pass schemaName true = .ok e) : ∃ r i, c.Passed schemaName r i e := by
  obtain ⟨r, hr, h⟩ := bind_ok_inv h
  obtain ⟨⟨views, issues⟩, hviews, h⟩ := bind_ok_inv h
  cases h
  obtain ⟨analyses, hanalyses, hviews⟩ := bind_ok_inv hviews
  obtain ⟨views', hresolved, hviews⟩ := bind_ok_inv hviews
  cases hviews
  have hread : c.read schemaName = .ok r := by
    cases hc : c.read schemaName with
    | error f => rw [hc] at hr; cases hr
    | ok r' => rw [hc] at hr; cases hr; rfl
  have hinventory : r.inventory? c.dialect = .ok ⟨r.built, analyses.map (·.1)⟩ := by
    rw [Reading.inventory?, hanalyses]
    rfl
  unfold Reading.resolvedViews at hresolved
  split at hresolved
  · rename_i made hmade
    cases hresolved
    exact ⟨r, _, hread, hinventory, rfl, made, hmade, rfl⟩
  · cases hresolved

namespace Passed

variable {c : Catalog} {schemaName : String} {r : Reading} {i : Inventory} {e : Extraction}

theorem sorted (h : c.Passed schemaName r i e) : r.Sorted := sorted_of_read h.read

theorem declared (h : c.Passed schemaName r i e) : i.Declared :=
  Reading.declared_of_inventory? h.sorted h.inventory

theorem view_mem (h : c.Passed schemaName r i e) {ref : RelationRef} {s : ViewSource}
    (hs : i.view? ref = some s) :
    ∃ v, i.plainFrom [] ref = .ok (some (.view v)) ∧ .view v ∈ e.schema.relations := by
  obtain ⟨made, hmade, hviews⟩ := h.views
  have hmem : i.plainFrom [] ref ∈ i.viewRefs.map (i.plainFrom []) :=
    List.mem_map.mpr ⟨ref, Inventory.mem_viewRefs.mpr (by rw [hs]; rfl), rfl⟩
  rw [← Inventory.resolveAll_on_ok h.declared Inventory.Sound.nil hmade] at hmem
  obtain ⟨rel, hrel, hplain⟩ := List.mem_map.mp hmem
  have ht := Reading.table?_eq_none h.sorted h.inventory
    (Reading.isView_of_view? h.sorted h.inventory hs)
  obtain ⟨-, v, -, hv⟩ := Inventory.plainFrom_view_ok ht hs hplain.symm
  cases hv
  refine ⟨v, hplain.symm, List.mem_append_right _ (List.mem_map.mpr ⟨v, ?_, rfl⟩)⟩
  rw [hviews]
  exact List.mem_filterMap.mpr ⟨_, hrel, rfl⟩

end Passed
end Catalog
end SchemaLineage
