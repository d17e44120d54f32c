import SchemaLineage.Proofs.Lineage.History
/-
All views can be made exactly when those that they declare to read lead to no circle.

Two searches have to agree.  One looks for a cycle in what the views declare, before any view is
made; the other meets a circle when a view is asked for on the way to itself.  A view asks only for
relations that its projections name, so where these are declared the second follows arrows of the
first, and without a cycle no path comes back.
-/

namespace SchemaLineage

theorem Asking.run_ok_of_only {ε α : Type} {P : RelationRef → Prop} {Q : α → Prop} {q : Asking α}
    {find : RelationRef → Except ε (Option TableOrView)} (h : q.Only P Q)
    (hfind : ∀ ref, P ref → ∃ r, find ref = .ok r) : ∃ a, q.run find = .ok a := by
  induction q with
  | done a => exact ⟨a, rfl⟩
  | ask ref next ih =>
    obtain ⟨r, hr⟩ := hfind ref h.1
    rw [Asking.run_ask_of_ok hr]
    exact ih r (h.2 r)

namespace Inventory

open Resolving

variable {i : Inventory}

def Declares (i : Inventory) (ref other : RelationRef) : Prop :=
  ∃ s, i.view? ref = some s ∧ other ∈ s.sources ∧ (i.view? other).isSome

/-- Whatever views the projections of a view name are among its sources. -/
def Declared (i : Inventory) : Prop :=
  ∀ s ∈ i.views, ∀ ref ∈ s.read, (i.view? ref).isSome → ref ∈ s.sources

theorem leads_iff {ref other : RelationRef} :
    i.dependencies.Leads other ref ↔ i.Declares ref other := by
  unfold Graph.Leads
  rw [Graph.mem_dependents]
  show ref ∈ i.viewRefs ∧ other ∈ (((i.view? ref).map (·.sources)).getD []).filter _ ↔ _
  rw [mem_viewRefs, List.mem_filter]
  constructor
  · rintro ⟨href, hmem, hother⟩
    obtain ⟨s, hs⟩ := Option.isSome_iff_exists.mp href
    rw [hs] at hmem
    exact ⟨s, hs, hmem, hother⟩
  · rintro ⟨s, hs, hmem, hother⟩
    rw [hs]
    exact ⟨rfl, hmem, hother⟩

theorem leads_eq : i.dependencies.Leads = Function.swap i.Declares := by
  funext other ref
  exact propext leads_iff

theorem exists_transGen_leads_iff :
    (∃ ref, Relation.TransGen i.dependencies.Leads ref ref) ↔
      ∃ ref, Relation.TransGen i.Declares ref ref := by
  rw [leads_eq]
  exact exists_congr fun ref => Relation.transGen_swap

theorem plainFrom_ok_of_no_view {path : List RelationRef} {ref : RelationRef}
    (hv : i.view? ref = none) : ∃ r, i.plainFrom path ref = .ok r := by
  cases ht : i.table? ref with
  | some t => exact ⟨_, plainFrom_table ht⟩
  | none => exact ⟨_, plainFrom_absent ht hv⟩

/-- Where no walk along declarations goes on forever, and all that is read is declared, a view can
be made along every path that leads to it. -/
theorem plainFrom_ok_of_acc (hd : i.Declared) {path : List RelationRef} {ref : RelationRef}
    (hacc : Acc (fun other ref => i.Declares ref other) ref)
    (hpath : ∀ p ∈ path, Relation.TransGen i.Declares p ref) :
    ∃ r, i.plainFrom path ref = .ok r := by
  induction hacc generalizing path with
  | intro ref hbelow ih =>
    cases ht : i.table? ref with
    | some t => exact ⟨_, plainFrom_table ht⟩
    | none =>
      cases hv : i.view? ref with
      | none => exact ⟨_, plainFrom_absent ht hv⟩
      | some s =>
        have hs := mem_of_view? hv
        have hp : ref ∉ path := fun hmem =>
          not_acc_of_transGen (hpath ref hmem) (Acc.intro ref hbelow)
        have hasked : ∀ other ∈ s.read, ∃ r, i.plainFrom (path ++ [ref]) other = .ok r := by
          intro other hread
          cases hother : i.view? other with
          | none => exact plainFrom_ok_of_no_view hother
          | some s' =>
            have hview : (i.view? other).isSome := by rw [hother]; rfl
            have hdeclares : i.Declares ref other := ⟨s, hv, hd s hs.1 other hread hview, hview⟩
            refine ih other hdeclares fun p hmem => ?_
            rcases List.mem_append.mp hmem with hmem | hmem
            · exact (hpath p hmem).tail hdeclares
            · rw [List.mem_singleton.mp hmem]
              exact .single hdeclares
        obtain ⟨v, hrun⟩ := Asking.run_ok_of_only (View.questions_only s) hasked
        exact ⟨_, plainFrom_view_of_run ht hv hp hrun⟩

theorem plainFrom_ok_of_acyclic (hd : i.Declared)
    (h : ¬ ∃ ref, Relation.TransGen i.Declares ref ref) (ref : RelationRef) :
    ∃ r, i.plainFrom [] ref = .ok r := by
  have hacc := Graph.acc_leads dependencies_wellFormed (mt exists_transGen_leads_iff.mp h) ref
  rw [leads_eq] at hacc
  exact plainFrom_ok_of_acc hd hacc fun p hp => absurd hp List.not_mem_nil

theorem cycle?_dependencies_eq_none_iff :
    i.dependencies.cycle? = none ↔ ¬ ∃ ref, Relation.TransGen i.Declares ref ref := by
  rw [Graph.cycle?_eq_none_iff dependencies_wellFormed, exists_transGen_leads_iff]

theorem plainAll_error {walk : List RelationRef} (h : i.dependencies.cycle? = some walk) :
    i.plainAll = .error ⟨walk⟩ := by
  rw [plainAll, h]

theorem map_some_filterMap {α β : Type} {f : α → Option β} {as : List α}
    (h : ∀ a ∈ as, (f a).isSome) : (as.filterMap f).map some = as.map f := by
  induction as with
  | nil => rfl
  | cons a as ih =>
    obtain ⟨b, hb⟩ := Option.isSome_iff_exists.mp (h a List.mem_cons_self)
    rw [List.filterMap_cons_some hb, List.map_cons, List.map_cons, hb,
      ih fun c hc => h c (List.mem_cons_of_mem a hc)]

theorem isSome_of_plainFrom_view {path : List RelationRef} {ref : RelationRef}
    {r : Option TableOrView} (hv : (i.view? ref).isSome) (h : i.plainFrom path ref = .ok r) :
    r.isSome := by
  cases ht : i.table? ref with
  | some t =>
    rw [plainFrom_table ht] at h
    cases h
    rfl
  | none =>
    obtain ⟨s, hs⟩ := Option.isSome_iff_exists.mp hv
    obtain ⟨-, v, -, rfl⟩ := plainFrom_view_ok ht hs h
    rfl

/-- Without a cycle all views are made, and each is what a new resolver makes of it. -/
theorem plainAll_ok (hd : i.Declared) (h : ¬ ∃ ref, Relation.TransGen i.Declares ref ref) :
    ∃ rs, i.plainAll = .ok rs ∧
      rs.map (fun r => .ok (some r)) = i.viewRefs.map (i.plainFrom []) := by
  let made (ref : RelationRef) : Option TableOrView := (i.plainFrom [] ref).toOption.join
  have hmade : ∀ ref, i.plainFrom [] ref = .ok (made ref) := by
    intro ref
    obtain ⟨r, hr⟩ := plainFrom_ok_of_acyclic hd h ref
    show _ = Except.ok (i.plainFrom [] ref).toOption.join
    rw [hr]
    cases r <;> rfl
  have hsome : ∀ ref ∈ i.viewRefs, (made ref).isSome := fun ref href =>
    isSome_of_plainFrom_view (mem_viewRefs.mp href) (hmade ref)
  refine ⟨i.viewRefs.filterMap made, ?_, ?_⟩
  · rw [plainAll, cycle?_dependencies_eq_none_iff.mpr h]
    simp only [mapM_ok_of_forall fun ref _ => hmade ref]
    show Except.ok ((i.viewRefs.map made).filterMap id) = _
    rw [List.filterMap_map, Function.id_comp]
  · calc (i.viewRefs.filterMap made).map (fun r => .ok (some r))
        = ((i.viewRefs.filterMap made).map some).map .ok := by rw [List.map_map]; rfl
      _ = (i.viewRefs.map made).map .ok := by rw [map_some_filterMap hsome]
      _ = i.viewRefs.map (i.plainFrom []) := by
        rw [List.map_map]
        exact List.map_congr_left fun ref _ => (hmade ref).symm

theorem plainAll_error_iff (hd : i.Declared) :
    (∃ c, i.plainAll = .error c) ↔ ∃ ref, Relation.TransGen i.Declares ref ref := by
  constructor
  · rintro ⟨c, hc⟩
    by_contra h
    obtain ⟨rs, hrs, -⟩ := plainAll_ok hd h
    rw [hrs] at hc
    cases hc
  · intro h
    cases hcycle : i.dependencies.cycle? with
    | none => exact absurd h (cycle?_dependencies_eq_none_iff.mp hcycle)
    | some walk => exact ⟨⟨walk⟩, plainAll_error hcycle⟩

/-- A circle is found before any view is made. -/
theorem resolveAll_on_error {c : ViewCycle} {made made' : MadeViews} (hd : i.Declared)
    (hmade : i.Sound made) (h : i.resolveAll.on made = (.error c, made')) :
    made' = made ∧ ClosedWalk (fun ref other => i.Declares other ref) c.walk := by
  cases hcycle : i.dependencies.cycle? with
  | none =>
    obtain ⟨rs, hrs, -⟩ := plainAll_ok hd (cycle?_dependencies_eq_none_iff.mp hcycle)
    have hfst := resolveAll_on_fst hmade
    rw [hrs, h] at hfst
    cases hfst
  | some walk =>
    have hon : i.resolveAll.on made = (.error ⟨walk⟩, made) := by
      rw [resolveAll, hcycle]
      rfl
    rw [hon] at h
    cases h
    exact ⟨rfl, (Graph.closedWalk_of_cycle? hcycle).imp fun _ _ => leads_iff.mp⟩

theorem resolveAll_on_ok {rs : List TableOrView} {made : MadeViews} (hd : i.Declared)
    (hmade : i.Sound made) (h : (i.resolveAll.on made).1 = .ok rs) :
    rs.map (fun r => .ok (some r)) = i.viewRefs.map (i.plainFrom []) := by
  rw [resolveAll_on_fst hmade] at h
  have hacyclic : ¬ ∃ ref, Relation.TransGen i.Declares ref ref := by
    rw [← plainAll_error_iff hd]
    rintro ⟨c, hc⟩
    rw [h] at hc
    cases hc
  obtain ⟨rs', hrs', hmap⟩ := plainAll_ok hd hacyclic
  rw [h] at hrs'
  cases hrs'
  exact hmap

theorem order_declares :
    i.dependencies.order.Pairwise fun ref other => ¬ i.Declares ref other :=
  (Graph.order_sorted dependencies_wellFormed).imp fun hnot h =>
    hnot (Graph.mem_dependents.mp (leads_iff.mpr h)).2

/-- Asking for all views fails exactly when the views declare to read each other in a circle.  Then
nothing is made and the circle is named; otherwise every view is made once, as a new resolver makes
it, each after those that it declares to read, and no request meets a circle. -/
theorem resolveAll_after (i : Inventory) (hd : i.Declared) (requests : List Request) :
    ((∃ c, (i.resolveAll.on (i.after requests)).1 = .error c) ↔
        ∃ ref, Relation.TransGen i.Declares ref ref) ∧
      (∀ c made, i.resolveAll.on (i.after requests) = (.error c, made) →
        made = i.after requests ∧ c.names = c.walk.map RelationRef.qualifiedName ∧
          ClosedWalk (fun ref other => i.Declares other ref) c.walk) ∧
      (∀ rs, (i.resolveAll.on (i.after requests)).1 = .ok rs →
        rs.map (fun r => .ok (some r)) = i.viewRefs.map fun ref => ((i.resolve ref).on []).1) ∧
      ((¬ ∃ ref, Relation.TransGen i.Declares ref ref) →
        i.dependencies.order.Perm i.viewRefs ∧
          i.dependencies.order.Pairwise (fun ref other => ¬ i.Declares ref other) ∧
          ∀ refs : List RelationRef, ∃ rs,
            (on (refs.mapM i.resolve) (i.after requests)).1 = .ok rs) := by
  have hsound := i.sound_after requests
  refine ⟨?_, fun c made hc => ?_, fun rs hrs => ?_, fun h => ⟨?_, order_declares, fun refs => ?_⟩⟩
  · rw [resolveAll_on_fst hsound]
    exact plainAll_error_iff hd
  · obtain ⟨hmade, hwalk⟩ := resolveAll_on_error hd hsound hc
    exact ⟨hmade, rfl, hwalk⟩
  · rw [resolveAll_on_ok hd hsound hrs]
    exact List.map_congr_left fun ref _ => (resolve_on_fst Sound.nil ref).symm
  · exact order_perm_viewRefs (cycle?_dependencies_eq_none_iff.mpr h)
  · have hall : ∀ ref ∈ refs, ∃ r, i.plainFrom [] ref = .ok r :=
      fun ref _ => plainFrom_ok_of_acyclic hd h ref
    obtain ⟨rs, made', hon, -⟩ := mapM_resolve_on hsound hall
    exact ⟨rs, by rw [hon]⟩

/-- Two views that read each other, and a third that reads a table. -/
def mutualViews : Inventory where
  tables := [
    (⟨"s", "t", .table⟩,
      { name := "t", schemaName := "s", columns := [{ name := "x", ordinalPosition := 1 }] })]
  views := [
    { ref := ⟨"s", "a", .view⟩
      rows := []
      analysis := some {
        sources := [⟨"s", "b", .view⟩]
        projections := [.wildcard (some ⟨"s", "b", .view⟩)] } },
    { ref := ⟨"s", "b", .view⟩
      rows := []
      analysis := some {
        sources := [⟨"s", "a", .view⟩]
        projections := [.direct ⟨"s", "a", .view⟩ "x" "y"] } },
    { ref := ⟨"s", "c", .view⟩
      rows := []
      analysis := some {
        sources := [⟨"s", "t", .table⟩]
        projections := [.wildcard (some ⟨"s", "t", .table⟩)] } }]

theorem mutualViews_declared : mutualViews.Declared := by
  unfold Declared
  decide

theorem mutualViews_fail :
    mutualViews.Declared ∧ ∃ c,
      mutualViews.resolveAll.on (mutualViews.after [.relation ⟨"s", "c", .view⟩, .allViews]) =
        (.error c, mutualViews.after [.relation ⟨"s", "c", .view⟩, .allViews]) ∧
      ClosedWalk (fun ref other => mutualViews.Declares other ref) c.walk := by
  refine ⟨mutualViews_declared, ?_⟩
  obtain ⟨hfails, hunchanged, -, -⟩ := resolveAll_after mutualViews mutualViews_declared
    [.relation ⟨"s", "c", .view⟩, .allViews]
  have hab : mutualViews.Declares ⟨"s", "a", .view⟩ ⟨"s", "b", .view⟩ :=
    ⟨_, rfl, List.mem_cons_self, rfl⟩
  have hba : mutualViews.Declares ⟨"s", "b", .view⟩ ⟨"s", "a", .view⟩ :=
    ⟨_, rfl, List.mem_cons_self, rfl⟩
  obtain ⟨c, hc⟩ := hfails.mpr ⟨_, .head hab (.single hba)⟩
  obtain ⟨hmade, -, hwalk⟩ := hunchanged c _ (Prod.ext hc rfl)
  exact ⟨c, Prod.ext hc hmade, hwalk⟩

end Inventory
end SchemaLineage
