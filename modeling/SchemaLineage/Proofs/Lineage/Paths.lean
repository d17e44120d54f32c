import SchemaLineage.Proofs.Lineage.Cycle
import SchemaLineage.Proofs.Lineage.History
import SchemaLineage.Proofs.Lineage.Workers
/-
The paths along which relations are asked for.

A resolver that is asked for a relation makes views within views, and nothing is required of what
these read: their projections may lead in circles, to relations that are not there, or to some that
the views do not declare.  Its state between two accesses to the views made so far is a `Task`,
whose frames are the calls that are under way.  One access after another keeps these in order
(`OnWay`): each call is for a view, no view has two of them, and each was made for what a projection
of the view below it names.  So there are never more calls under way than views, a circle that is
met closes a part of the path without repeating any of it, and what is asked for always ends
(`Inventory.resolve_ends`).
-/

namespace SchemaLineage

namespace Inventory

/-- A view of the inventory, and no table. -/
def IsView (i : Inventory) (ref : RelationRef) : Prop :=
  i.table? ref = none ∧ (i.view? ref).isSome

/-- Views, none of which is there twice. -/
structure DistinctViews (i : Inventory) (refs : List RelationRef) : Prop where
  nodup : refs.Nodup
  views : ∀ p ∈ refs, i.IsView p

variable {i : Inventory} {refs : List RelationRef} {ref other : RelationRef}

theorem DistinctViews.nil : i.DistinctViews [] :=
  ⟨List.nodup_nil, fun _ hp => absurd hp List.not_mem_nil⟩

theorem DistinctViews.append (h : i.DistinctViews refs) (hview : i.IsView ref) (hp : ref ∉ refs) :
    i.DistinctViews (refs ++ [ref]) where
  nodup := by
    refine List.nodup_append.mpr ⟨h.nodup, List.nodup_singleton ref, fun a ha b hb hab => ?_⟩
    rw [hab, List.mem_singleton.mp hb] at ha
    exact hp ha
  views p hmem := by
    rcases List.mem_append.mp hmem with hmem | hmem
    · exact h.views p hmem
    · rw [List.mem_singleton.mp hmem]
      exact hview

theorem DistinctViews.length_le (h : i.DistinctViews refs) : refs.length ≤ i.viewRefs.length := by
  have hsubset : refs ⊆ i.viewRefs := fun p hp => mem_viewRefs.mpr (h.views p hp).2
  exact (List.subperm_of_subset h.nodup hsubset).length_le

/-- A projection of the view has the other relation as its source. -/
def Projects (i : Inventory) (ref other : RelationRef) : Prop :=
  ∃ s, i.view? ref = some s ∧ ∃ p ∈ s.projections, p.source = some other

theorem projects_of_mem_read {s : ViewSource} (hs : i.view? ref = some s)
    (hread : other ∈ s.read) : i.Projects ref other :=
  ⟨s, hs, List.mem_filterMap.mp hread⟩

end Inventory

/-- A circle of views, each with a projection from the next, to which projections lead from the
relation that was asked for. -/
structure ViewCycle.MetFrom (i : Inventory) (ref : RelationRef) (c : ViewCycle) : Prop where
  views : ∀ p ∈ c.walk, i.IsView p
  closed : ClosedWalk i.Projects c.walk
  once : c.walk.dropLast.Nodup
  reached : ∃ first, c.walk.head? = some first ∧ Relation.ReflTransGen i.Projects ref first

namespace Task

variable {i : Inventory} {start ref : RelationRef} {below : List Frame}

/-- The views that are being made, the outermost one first. -/
def underway : Task → List RelationRef
  | .read _ below => path below
  | .keep ref _ below => path below ++ [ref]
  | .ended _ => []

/-! ## Calls under way -/

/-- A relation is asked for by the innermost of some views that are being made.  Each of them was
asked for by the one below it, and the outermost one at the start. -/
inductive Asked (i : Inventory) (start : RelationRef) : RelationRef → List Frame → Prop
  | first : Asked i start start []
  | within {f : Frame} {below : List Frame} {s : ViewSource} {other : RelationRef}
      (h : Asked i start f.ref below) (ht : i.table? f.ref = none) (hs : i.view? f.ref = some s)
      (hp : f.ref ∉ path below) (hread : other ∈ s.read)
      (hnext : ∀ r, (f.next r).Only (fun other => other ∈ s.read) fun _ => True) :
      Asked i start other (f :: below)

theorem Asked.reached (h : Asked i start ref below) :
    Relation.ReflTransGen i.Projects start ref := by
  induction h with
  | first => exact .refl
  | within _ _ hs _ hread _ ih => exact ih.tail (Inventory.projects_of_mem_read hs hread)

theorem Asked.distinct (h : Asked i start ref below) : i.DistinctViews (path below) := by
  induction h with
  | first => exact .nil
  | within _ ht hs hp _ _ ih =>
    rw [path_cons]
    exact ih.append ⟨ht, Option.isSome_of_eq_some hs⟩ hp

theorem Asked.chain (h : Asked i start ref below) : (path below ++ [ref]).IsChain i.Projects := by
  induction h with
  | first => exact List.isChain_singleton _
  | within _ _ hs _ hread _ ih =>
    rw [path_cons]
    refine List.isChain_append.mpr ⟨ih, List.isChain_singleton _, ?_⟩
    simpa using Inventory.projects_of_mem_read hs hread

/-- A view that is asked for while it is made closes a circle. -/
theorem Asked.metFrom (h : Asked i start ref below) (hview : i.IsView ref) (hp : ref ∈ path below) :
    (ViewCycle.closing (path below) ref).MetFrom i start where
  views p hmem := by
    rcases List.mem_append.mp hmem with hmem | hmem
    · exact h.distinct.views p ((List.dropWhile_sublist _).mem hmem)
    · rw [List.mem_singleton.mp hmem]
      exact hview
  closed := closedWalk_dropWhile hp h.chain
  once := by
    rw [ViewCycle.closing, List.dropLast_concat]
    exact h.distinct.nodup.sublist (List.dropWhile_sublist _)
  reached := by
    obtain ⟨rest, hrest⟩ := exists_dropWhile_eq_cons hp
    refine ⟨ref, ?_, h.reached⟩
    rw [ViewCycle.closing, hrest]
    rfl

/-! ## Accesses -/

/-- What a resolver may be doing that was asked for a relation at the start. -/
inductive OnWay (i : Inventory) (start : RelationRef) : Task → Prop
  | read {ref : RelationRef} {below : List Frame} (h : Asked i start ref below) :
      OnWay i start (.read ref below)
  | keep {ref : RelationRef} {view : View} {below : List Frame} (h : Asked i start ref below)
      (hview : i.IsView ref) (hp : ref ∉ path below) : OnWay i start (.keep ref view below)
  | returned (r : Option TableOrView) : OnWay i start (.ended (.ok r))
  | failed {c : ViewCycle} (h : c.MetFrom i start) : OnWay i start (.ended (.error c))

theorem Asked.work {s : ViewSource} {q : Asking View} (h : Asked i start ref below)
    (ht : i.table? ref = none) (hs : i.view? ref = some s) (hp : ref ∉ path below)
    (hq : q.Only (fun other => other ∈ s.read) fun _ => True) :
    OnWay i start (work ref below q) := by
  cases q with
  | done v => exact .keep h ⟨ht, Option.isSome_of_eq_some hs⟩ hp
  | ask other next => exact .read (.within h ht hs hp hq.1 hq.2)

theorem Asked.answer (h : Asked i start ref below) (r : Option TableOrView) :
    OnWay i start (answer r below) := by
  cases h with
  | first => exact .returned r
  | within h ht hs hp _ hnext => exact h.work ht hs hp (hnext r)

theorem OnWay.step {task task' : Task} {made made' : MadeViews} {started : Option ViewSource}
    (h : OnWay i start task) (hstep : Step i (task, made) started (task', made')) :
    OnWay i start task' := by
  cases h with
  | read h =>
    cases hstep with
    | found hr => exact h.answer _
    | absent hr hv => exact h.answer none
    | circle hr hv hp =>
      have ht := Inventory.table?_of_not_available hr
      exact .failed (h.metFrom ⟨ht, Option.isSome_of_eq_some hv⟩ hp)
    | start hr hv hp =>
      exact h.work (Inventory.table?_of_not_available hr) hv hp (View.questions_only _)
  | keep h hview hp =>
    cases hstep with
    | kept hr => exact h.answer _
    | keep hr => exact h.answer _
  | returned r => cases hstep
  | failed h => cases hstep

theorem OnWay.goes {x y : Task × MadeViews} (h : OnWay i start x.1) (hgoes : Goes i x y) :
    OnWay i start y.1 := by
  induction hgoes with
  | refl => exact h
  | tail _ hstep ih =>
    obtain ⟨started, hstep⟩ := hstep
    exact ih.step hstep

theorem OnWay.underway {task : Task} (h : OnWay i start task) :
    i.DistinctViews task.underway := by
  cases h with
  | read h => exact h.distinct
  | keep h hview hp => exact h.distinct.append hview hp
  | returned r => exact .nil
  | failed h => exact .nil

/-- As an access is decided by what is there, one run that ends leaves no other. -/
theorem acc_of_goes {x y : Task × MadeViews} {outcome : Except ViewCycle (Option TableOrView)}
    (h : Goes i x y) (hend : y.1 = .ended outcome) :
    Acc (fun y x => ∃ started, Step i x started y) x := by
  induction h using Relation.ReflTransGen.head_induction_on with
  | refl =>
    refine Acc.intro _ fun z hstep => ?_
    obtain ⟨started, hstep⟩ := hstep
    obtain ⟨task, made⟩ := y
    cases hend
    cases hstep
  | head hstep _ ih =>
    obtain ⟨started, hstep⟩ := hstep
    refine Acc.intro _ fun z hother => ?_
    obtain ⟨started', hother⟩ := hother
    exact (hstep.unique hother).2 ▸ ih

end Task

namespace Inventory

open Resolving

variable {i : Inventory}

theorem plainFrom_eq_none_iff {path : List RelationRef} {ref : RelationRef} :
    i.plainFrom path ref = .ok none ↔ i.table? ref = none ∧ i.view? ref = none := by
  constructor
  · intro h
    cases ht : i.table? ref with
    | some t =>
      rw [plainFrom_table ht] at h
      cases h
    | none =>
      refine ⟨rfl, ?_⟩
      cases hv : i.view? ref with
      | none => rfl
      | some s =>
        obtain ⟨-, v, -, hr⟩ := plainFrom_view_ok ht hv h
        cases hr
  · rintro ⟨ht, hv⟩
    exact plainFrom_absent ht hv

/-- Whatever was asked for before and whatever the views read, what is asked for ends, with a
relation, with nothing when there is no such relation, or with a circle.  On the way there no view
is being made twice at a time. -/
theorem resolve_ends (i : Inventory) (requests : List Request) (ref : RelationRef) :
    Acc (fun y x => ∃ started, Task.Step i x started y) (.read ref [], i.after requests) ∧
      Task.Goes i (.read ref [], i.after requests)
        (.ended ((i.resolve ref).on (i.after requests)).1,
          ((i.resolve ref).on (i.after requests)).2) ∧
      (∀ task made, Task.Goes i (.read ref [], i.after requests) (task, made) →
        task.underway.Nodup ∧ (∀ p ∈ task.underway, i.IsView p) ∧
          task.underway.length ≤ i.viewRefs.length) ∧
      (((i.resolve ref).on (i.after requests)).1 = .ok none ↔
        i.table? ref = none ∧ i.view? ref = none) ∧
      ∀ c, ((i.resolve ref).on (i.after requests)).1 = .error c →
        c.names = c.walk.map RelationRef.qualifiedName ∧ c.MetFrom i ref := by
  have hgoes := Task.resolve_goes (i := i) ref (i.after requests)
  have hstart : Task.OnWay i ref (.read ref []) := .read .first
  refine ⟨Task.acc_of_goes hgoes rfl, hgoes, fun task made h => ?_, ?_, fun c hc => ⟨rfl, ?_⟩⟩
  · have hviews := (hstart.goes h).underway
    exact ⟨hviews.nodup, hviews.views, hviews.length_le⟩
  · rw [resolve_on_fst (i.sound_after requests), plainFrom_eq_none_iff]
  · have hend := hstart.goes hgoes
    rw [hc] at hend
    cases hend with
    | failed h => exact h

end Inventory
end SchemaLineage
