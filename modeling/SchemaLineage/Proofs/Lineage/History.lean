import SchemaLineage.Proofs.Lineage.Memory
import SchemaLineage.Proofs.Lineage.Order
import SchemaLineage.Proofs.Outcome
/-
What was asked before changes no answer.

A resolver is asked for one relation or for all views, over and over, and some of these requests
fail on a circle after they have made a few views.  Whatever they were, the views they leave are
sound, so the next request is answered as by a resolver that was never asked anything.

The same holds of every call that comes up on the way (`Calls`): it is on a trail, and the views
that it finds are sound.
-/

namespace SchemaLineage

namespace Inventory

open Resolving

variable {i : Inventory}

theorem mem_viewRefs {ref : RelationRef} : ref ∈ i.viewRefs ↔ (i.view? ref).isSome := by
  rw [viewRefs, List.mem_eraseDups, List.mem_map, view?, List.find?_isSome]
  simp

theorem dependencies_wellFormed : i.dependencies.WellFormed where
  nodup := nodup_eraseDups _
  closed _ _ _ hm := mem_viewRefs.mpr (List.mem_filter.mp hm).2

theorem order_perm_viewRefs (h : i.dependencies.cycle? = none) :
    i.dependencies.order.Perm i.viewRefs :=
  Graph.order_perm dependencies_wellFormed ((Graph.cycle?_eq_none_iff dependencies_wellFormed).mp h)

theorem plainFrom_eq_available {made : MadeViews} {ref : RelationRef} {r : Option TableOrView}
    (hmade : i.Sound made) (hr : i.plainFrom [] ref = .ok r)
    (hthere : r.isSome → (i.available made ref).isSome) :
    i.plainFrom [] ref = .ok (i.available made ref) := by
  cases ha : i.available made ref with
  | some x => exact hmade.available ha
  | none =>
    cases r with
    | none => exact hr
    | some x =>
      rw [ha] at hthere
      cases hthere rfl

/-- When everything that is asked for can be made, it is all there in the end. -/
theorem mapM_resolve_on {refs : List RelationRef} {made : MadeViews} (hmade : i.Sound made)
    (hok : ∀ ref ∈ refs, ∃ r, i.plainFrom [] ref = .ok r) :
    ∃ rs made', (refs.mapM i.resolve).on made = (.ok rs, made') ∧ i.Grown made made' ∧
      ∀ ref ∈ refs, i.plainFrom [] ref = .ok (i.available made' ref) := by
  induction refs generalizing made with
  | nil => exact ⟨[], made, rfl, ⟨hmade, List.prefix_rfl⟩, fun ref h => absurd h List.not_mem_nil⟩
  | cons ref refs ih =>
    obtain ⟨r, hr⟩ := hok ref List.mem_cons_self
    obtain ⟨made', hon, hgrown⟩ := resolve_yields made ref made ⟨hmade, List.prefix_rfl⟩
    rw [hr] at hon
    obtain ⟨rs, made'', hrest, hgrown', hthere⟩ :=
      ih hgrown.sound fun other hother => hok other (List.mem_cons_of_mem ref hother)
    refine ⟨r :: rs, made'', ?_, ⟨hgrown'.sound, hgrown.extends_base.trans hgrown'.extends_base⟩,
      fun other hother => ?_⟩
    · rw [List.mapM_cons, on_bind_ok hon, on_bind_ok hrest]
      rfl
    · rcases List.mem_cons.mp hother with rfl | hother
      · refine plainFrom_eq_available hgrown'.sound hr fun hsome => ?_
        obtain ⟨x, rfl⟩ := Option.isSome_iff_exists.mp hsome
        obtain ⟨y, hy⟩ := Option.isSome_iff_exists.mp (available_of_resolveFrom hon)
        rw [hgrown'.available hy]
        rfl
      · exact hthere other hother

/-- All views, each made anew: the outcome of asking a resolver for all of them. -/
def plainAll (i : Inventory) : Except ViewCycle (List TableOrView) :=
  match i.dependencies.cycle? with
  | some walk => .error ⟨walk⟩
  | none => do
    let _ ← i.dependencies.order.mapM (i.plainFrom [])
    return (← i.viewRefs.mapM (i.plainFrom [])).filterMap id

theorem resolveAll_yields (base : MadeViews) : i.resolveAll.Yields (i.Grown base) i.plainAll := by
  intro made hmade
  unfold resolveAll plainAll
  cases hc : i.dependencies.cycle? with
  | some walk => exact ⟨made, rfl, hmade⟩
  | none =>
    cases horder : i.dependencies.order.mapM (i.plainFrom []) with
    | error c =>
      obtain ⟨made', hon, hmade'⟩ := Yields.mapM (fun ref _ => resolve_yields base ref) made hmade
      rw [horder] at hon
      exact ⟨made', on_bind_error hon, hmade'⟩
    | ok rs =>
      obtain ⟨rs', made', hon, hgrown, hthere⟩ :=
        mapM_resolve_on hmade.sound (forall_ok_of_mapM horder)
      have hviews : i.viewRefs.mapM (i.plainFrom []) = .ok (i.viewRefs.map (i.available made')) :=
        mapM_ok_of_forall fun ref href => hthere ref ((order_perm_viewRefs hc).mem_iff.mpr href)
      refine ⟨made', (on_bind_ok hon).trans ?_,
        hgrown.sound, hmade.extends_base.trans hgrown.extends_base⟩
      rw [hviews]
      show (Except.ok (i.viewRefs.filterMap (i.available made')), made') =
        (Except.ok ((i.viewRefs.map (i.available made')).filterMap id), made')
      rw [List.filterMap_map, Function.id_comp]

/-- What a resolver can be asked for. -/
inductive Request where
  | relation (ref : RelationRef)
  | allViews

def afterOne (i : Inventory) (made : MadeViews) : Request → MadeViews
  | .relation ref => ((i.resolve ref).on made).2
  | .allViews => (i.resolveAll.on made).2

/-- The views that are there after some requests, answered one after another. -/
def after (i : Inventory) (requests : List Request) : MadeViews := requests.foldl i.afterOne []

theorem Sound.afterOne {made : MadeViews} (h : i.Sound made) (request : Request) :
    i.Sound (i.afterOne made request) := by
  cases request with
  | relation ref =>
    obtain ⟨made', hon, hmade'⟩ := resolve_yields made ref made ⟨h, List.prefix_rfl⟩
    rw [Inventory.afterOne, hon]
    exact hmade'.sound
  | allViews =>
    obtain ⟨made', hon, hmade'⟩ := resolveAll_yields made made ⟨h, List.prefix_rfl⟩
    rw [Inventory.afterOne, hon]
    exact hmade'.sound

theorem sound_after (requests : List Request) : i.Sound (i.after requests) := by
  unfold after
  induction requests using List.reverseRecOn with
  | nil => exact Sound.nil
  | append_singleton requests request ih =>
    rw [List.foldl_append]
    exact ih.afterOne request

/-! ## Calls -/

theorem resolve_on_fst {made : MadeViews} (h : i.Sound made) (ref : RelationRef) :
    ((i.resolve ref).on made).1 = i.plainFrom [] ref := by
  obtain ⟨made', hon, -⟩ := resolve_yields made ref made ⟨h, List.prefix_rfl⟩
  rw [hon]

theorem resolveAll_on_fst {made : MadeViews} (h : i.Sound made) :
    (i.resolveAll.on made).1 = i.plainAll := by
  obtain ⟨made', hon, -⟩ := resolveAll_yields made made ⟨h, List.prefix_rfl⟩
  rw [hon]

/-- After any requests, failed ones included, each is answered as by a new resolver, and every view
that was kept is the one that a new resolver makes. -/
theorem answers_after (i : Inventory) (requests : List Request) :
    (∀ ref, ((i.resolve ref).on (i.after requests)).1 = ((i.resolve ref).on []).1) ∧
      (i.resolveAll.on (i.after requests)).1 = (i.resolveAll.on []).1 ∧
      ∀ ref v, (ref, v) ∈ i.after requests → ((i.resolve ref).on []).1 = .ok (some (.view v)) := by
  have hsound := i.sound_after requests
  refine ⟨fun ref => ?_, ?_, fun ref v hmem => ?_⟩
  · rw [resolve_on_fst hsound, resolve_on_fst Sound.nil]
  · rw [resolveAll_on_fst hsound, resolveAll_on_fst Sound.nil]
  · rw [resolve_on_fst Sound.nil]
    exact hsound ref v hmem

end Inventory
end SchemaLineage
