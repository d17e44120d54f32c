import SchemaLineage.Proofs.Lineage.Memory
/-
A worker that resolves a relation, one access to the shared views at a time.

Between two accesses a worker keeps to itself, so its state is the access that it makes next and the
views that it is making, each with what it does when the relation that it asked for is known
(`Frame`).  There are two kinds of access.  A relation is looked up; when it is not there and is a
view, the worker starts to make it.  And a view that was made is kept, unless another worker has
kept one in the meantime, which then counts.

A worker that is alone does what `Inventory.resolve` does (`Task.resolve_goes`).  What has to be
seen for this is that a worker never keeps a view that it is still making, since it refuses to start
it again: when it comes to keep a view, nobody else being there, the view is still not kept.

A worker that is given a view when all that the view reads is there finds whatever it looks up, as
far as the inventory has it.  So it makes no view but this one, whatever other workers keep in the
meantime (`Task.For`, `Task.For.step`).
-/

namespace SchemaLineage

/-- A view that is being made, and how this goes on with the relation that it has asked for. -/
structure Frame where
  ref : RelationRef
  next : Option TableOrView → Asking View

/-- What a worker does next.  The views that it is making are listed from the innermost one. -/
inductive Task where
  | read (ref : RelationRef) (below : List Frame)
  | keep (ref : RelationRef) (view : View) (below : List Frame)
  | ended (outcome : Except ViewCycle (Option TableOrView))

namespace Task

/-- The views that are being made, the outermost one first. -/
def path (below : List Frame) : List RelationRef := (below.map (·.ref)).reverse

/-- Go on with the making of a view. -/
def work (ref : RelationRef) (below : List Frame) : Asking View → Task
  | .done v => .keep ref v below
  | .ask other next => .read other (⟨ref, next⟩ :: below)

/-- Give a relation to the view that asked for it. -/
def answer (r : Option TableOrView) : List Frame → Task
  | [] => .ended (.ok r)
  | f :: below => work f.ref below (f.next r)

/-- What follows an answer, or a circle that was met instead. -/
def finish (below : List Frame) : Except ViewCycle (Option TableOrView) → Task
  | .ok r => answer r below
  | .error c => .ended (.error c)

/-- What follows the making of a view. -/
def built (ref : RelationRef) (below : List Frame) : Except ViewCycle View → Task
  | .ok v => .keep ref v below
  | .error c => .ended (.error c)

/-- One access to the views made so far, and the source of the view that is started after it. -/
inductive Step (i : Inventory) :
    Task × MadeViews → Option ViewSource → Task × MadeViews → Prop
  | found {ref : RelationRef} {below : List Frame} {made : MadeViews} {r : TableOrView}
      (hr : i.available made ref = some r) :
      Step i (.read ref below, made) none (answer (some r) below, made)
  | absent {ref : RelationRef} {below : List Frame} {made : MadeViews}
      (hr : i.available made ref = none) (hv : i.view? ref = none) :
      Step i (.read ref below, made) none (answer none below, made)
  | circle {ref : RelationRef} {below : List Frame} {made : MadeViews} {s : ViewSource}
      (hr : i.available made ref = none) (hv : i.view? ref = some s) (hp : ref ∈ path below) :
      Step i (.read ref below, made) none (.ended (.error (.closing (path below) ref)), made)
  | start {ref : RelationRef} {below : List Frame} {made : MadeViews} {s : ViewSource}
      (hr : i.available made ref = none) (hv : i.view? ref = some s) (hp : ref ∉ path below) :
      Step i (.read ref below, made) (some s) (work ref below (View.questions s), made)
  | kept {ref : RelationRef} {view : View} {below : List Frame} {made : MadeViews} {r : TableOrView}
      (hr : i.available made ref = some r) :
      Step i (.keep ref view below, made) none (answer (some r) below, made)
  | keep {ref : RelationRef} {view : View} {below : List Frame} {made : MadeViews}
      (hr : i.available made ref = none) :
      Step i (.keep ref view below, made) none
        (answer (some (.view view)) below, made ++ [(ref, view)])

/-- Any number of accesses, with nobody else around. -/
def Goes (i : Inventory) : Task × MadeViews → Task × MadeViews → Prop :=
  Relation.ReflTransGen fun x y => ∃ started, Step i x started y

variable {i : Inventory}

/-- A task that has not ended can always go on. -/
theorem exists_step (task : Task) (made : MadeViews) :
    (∃ outcome, task = .ended outcome) ∨ ∃ started next, Step i (task, made) started next := by
  cases task with
  | ended outcome => exact .inl ⟨outcome, rfl⟩
  | keep ref view below =>
    cases hr : i.available made ref with
    | some r => exact .inr ⟨_, _, .kept hr⟩
    | none => exact .inr ⟨_, _, .keep hr⟩
  | read ref below =>
    cases hr : i.available made ref with
    | some r => exact .inr ⟨_, _, .found hr⟩
    | none =>
      cases hv : i.view? ref with
      | none => exact .inr ⟨_, _, .absent hr hv⟩
      | some s =>
        by_cases hp : ref ∈ path below
        · exact .inr ⟨_, _, .circle hr hv hp⟩
        · exact .inr ⟨_, _, .start hr hv hp⟩

/-- The views made so far decide what an access does. -/
theorem Step.unique {x y y' : Task × MadeViews} {started started' : Option ViewSource}
    (h : Step i x started y) (h' : Step i x started' y') : started = started' ∧ y = y' := by
  cases h <;> cases h' <;> simp_all

/-! ## Alone -/

theorem path_cons (f : Frame) (below : List Frame) : path (f :: below) = path below ++ [f.ref] := by
  rw [path, List.map_cons, List.reverse_cons]
  rfl

theorem Goes.access {x y : Task × MadeViews} {started : Option ViewSource}
    (h : Step i x started y) : Goes i x y := .single ⟨started, h⟩

theorem available_eq_none {made : MadeViews} {ref : RelationRef} (ht : i.table? ref = none)
    (hl : made.lookup ref = none) : i.available made ref = none := by
  rw [Inventory.available_view ht, hl]
  rfl

/-- Views that were not kept before and are still not. -/
def StillOut (path : List RelationRef) (made made' : MadeViews) : Prop :=
  ∀ p ∈ path, made.lookup p = none → made'.lookup p = none

theorem StillOut.append {path : List RelationRef} {made made' : MadeViews} {ref : RelationRef}
    (h : StillOut (path ++ [ref]) made made') (hp : ref ∉ path) (v : View) :
    StillOut path made (made' ++ [(ref, v)]) := by
  intro p hmem hout
  have hne : p ≠ ref := fun heq => hp (heq ▸ hmem)
  have hold : made'.lookup p = none := h p (List.mem_append_left [ref] hmem) hout
  have hsingle : ([(ref, v)] : MadeViews).lookup p = none := by
    rw [List.lookup_cons, beq_eq_false_iff_ne.mpr hne]
    rfl
  rw [List.lookup_append, hold, hsingle]
  rfl

open Resolving

/-- What `resolveFrom` comes to along a path, a worker comes to that is making the views on it. -/
def Follows (i : Inventory) (below : List Frame) (ref : RelationRef) : Prop :=
  ∀ made outcome made', (i.resolveFrom (path below) ref).on made = (outcome, made') →
    Goes i (.read ref below, made) (finish below outcome, made') ∧
      StillOut (path below) made made'

/-- Where all questions are followed, so is the making of the view. -/
theorem work_goes {below : List Frame} {ref : RelationRef} (q : Asking View)
    (h : ∀ other next, Follows i (⟨ref, next⟩ :: below) other) {made made' : MadeViews}
    {outcome : Except ViewCycle View}
    (hon : (q.run (i.resolveFrom (path below ++ [ref]))).on made = (outcome, made')) :
    Goes i (work ref below q, made) (built ref below outcome, made') ∧
      StillOut (path below ++ [ref]) made made' := by
  -- one question after another; what no answer has kept is still out when the view is made
  induction q generalizing made with
  | done v =>
    cases hon
    exact ⟨.refl, fun p _ hout => hout⟩
  | ask other next ih =>
    cases hfirst : (i.resolveFrom (path below ++ [ref]) other).on made with
    | mk answered between =>
      obtain ⟨hgoes, hout⟩ := h other next made answered between (by rw [path_cons]; exact hfirst)
      rw [path_cons] at hout
      cases answered with
      | error c =>
        have hstop := on_bind_error
          (k := fun r => (next r).run (i.resolveFrom (path below ++ [ref]))) hfirst
        have heq : (Except.error c, between) = (outcome, made') := hstop.symm.trans hon
        cases heq
        exact ⟨hgoes, hout⟩
      | ok r =>
        have hgo := on_bind_ok
          (k := fun r => (next r).run (i.resolveFrom (path below ++ [ref]))) hfirst
        obtain ⟨hrest, hout'⟩ := ih r (hgo.symm.trans hon)
        exact ⟨Relation.ReflTransGen.trans hgoes hrest,
          fun p hp hnone => hout' p hp (hout p hp hnone)⟩

theorem follows (below : List Frame) (ref : RelationRef) : Follows i below ref := by
  intro made outcome made' hon
  cases ht : i.table? ref with
  | some t =>
    rw [Inventory.resolveFrom_on_table ht] at hon
    cases hon
    exact ⟨.access (.found (Inventory.available_table ht)), fun p _ hout => hout⟩
  | none =>
    cases hl : made.lookup ref with
    | some v =>
      rw [Inventory.resolveFrom_on_made ht hl] at hon
      cases hon
      have hr : i.available made ref = some (.view v) := by
        rw [Inventory.available_view ht, hl]
        rfl
      exact ⟨.access (.found hr), fun p _ hout => hout⟩
    | none =>
      have hr := available_eq_none ht hl
      cases hv : i.view? ref with
      | none =>
        rw [Inventory.resolveFrom_on_absent ht hl hv] at hon
        cases hon
        exact ⟨.access (.absent hr hv), fun p _ hout => hout⟩
      | some s =>
        rw [Inventory.resolveFrom_on_view ht hl hv] at hon
        by_cases hp : ref ∈ path below
        · rw [if_pos hp] at hon
          cases hon
          exact ⟨.access (.circle hr hv hp), fun p _ hout => hout⟩
        · rw [if_neg hp] at hon
          cases hquestions :
              ((View.questions s).run (i.resolveFrom (path below ++ [ref]))).on made with
          | mk outcome' between =>
            obtain ⟨hgoes, hout⟩ := work_goes (View.questions s)
              (fun other next => follows (⟨ref, next⟩ :: below) other) hquestions
            have hstart : Goes i (.read ref below, made)
                (work ref below (View.questions s), made) := .access (.start hr hv hp)
            cases outcome' with
            | error c =>
              rw [on_bind_error hquestions] at hon
              cases hon
              exact ⟨Relation.ReflTransGen.trans hstart hgoes,
                fun p hmem => hout p (List.mem_append_left [ref] hmem)⟩
            | ok v =>
              rw [on_bind_ok hquestions] at hon
              have heq : (Except.ok (some (TableOrView.view v)), between ++ [(ref, v)]) =
                (outcome, made') := hon
              cases heq
              -- the view stands on the longer path, so nothing has kept it in the meantime
              have hout' : i.available between ref = none :=
                available_eq_none ht
                  (hout ref (List.mem_append_right (path below) List.mem_cons_self) hl)
              have hkeep : Goes i (.keep ref v below, between)
                  (answer (some (.view v)) below, between ++ [(ref, v)]) := .access (.keep hout')
              exact ⟨Relation.ReflTransGen.trans (Relation.ReflTransGen.trans hstart hgoes) hkeep,
                hout.append hp v⟩
termination_by i.offPath (path below)
decreasing_by
  have hmem := Inventory.mem_of_view? hv
  rw [path_cons]
  exact hmem.2 ▸ Inventory.offPath_append_lt hmem.1 (hmem.2 ▸ hp)

/-- A worker that is alone ends as `resolve` does, with the same views made. -/
theorem resolve_goes (ref : RelationRef) (made : MadeViews) :
    Goes i (.read ref [], made)
      (.ended ((i.resolve ref).on made).1, ((i.resolve ref).on made).2) := by
  obtain ⟨hgoes, -⟩ := follows [] ref made ((i.resolve ref).on made).1
    ((i.resolve ref).on made).2 rfl
  cases houtcome : ((i.resolve ref).on made).1 with
  | ok r =>
    rw [houtcome] at hgoes
    exact hgoes
  | error c =>
    rw [houtcome] at hgoes
    exact hgoes

end Task

/-! ## Given one view -/

/-- How many questions come up with these answers. -/
def Asking.count {ε α : Type} (find : RelationRef → Except ε (Option TableOrView)) :
    Asking α → Nat
  | done _ => 0
  | ask ref next =>
    match find ref with
    | .ok r => (next r).count find + 1
    | .error _ => 1

theorem Asking.count_ask {ε α : Type} {find : RelationRef → Except ε (Option TableOrView)}
    {ref : RelationRef} {next : Option TableOrView → Asking α} {r : Option TableOrView}
    (hr : find ref = .ok r) : (ask ref next).count find = (next r).count find + 1 := by
  rw [count, hr]

namespace Inventory

variable {i : Inventory} {made : MadeViews} {ref : RelationRef}

/-- The inventory has a table or view of this reference. -/
def Has (i : Inventory) (ref : RelationRef) : Prop :=
  (i.table? ref).isSome ∨ (i.view? ref).isSome

theorem table?_of_not_available (hr : i.available made ref = none) : i.table? ref = none := by
  cases ht : i.table? ref with
  | none => rfl
  | some t =>
    rw [available_table ht] at hr
    cases hr

/-- Everything that the source of a view names is there, as far as the inventory has it. -/
def Ready (i : Inventory) (made : MadeViews) (s : ViewSource) : Prop :=
  ∀ other ∈ s.read, i.Has other → (i.available made other).isSome

theorem Grown.isSome {made' : MadeViews} (h : i.Grown made made')
    (hr : (i.available made ref).isSome) : (i.available made' ref).isSome := by
  obtain ⟨r, hr⟩ := Option.isSome_iff_exists.mp hr
  rw [h.available hr]
  rfl

end Inventory

namespace Task

open Inventory

variable {i : Inventory} {made made' : MadeViews} {ref : RelationRef}

/-- What a worker may be doing that was given a view: it looks up relations for this view alone. -/
inductive For (i : Inventory) (made : MadeViews) (ref : RelationRef) : Task → Prop
  | fresh : For i made ref (.read ref [])
  | asking {s : ViewSource} {v : View} {other : RelationRef}
      {next : Option TableOrView → Asking View} (hs : i.view? ref = some s)
      (hv : i.plainFrom [] ref = .ok (some (.view v)))
      (hread : (Asking.ask other next).Only (fun other => other ∈ s.read) fun _ => True)
      (hrun : (Asking.ask other next).run (i.plainFrom []) = .ok v) :
      For i made ref (.read other [⟨ref, next⟩])
  | keeping {v : View} (hv : i.plainFrom [] ref = .ok (some (.view v))) :
      For i made ref (.keep ref v [])
  | ended {r : Option TableOrView} (hr : (i.available made ref).isSome) :
      For i made ref (.ended (.ok r))

theorem For.mono {task : Task} (h : For i made ref task) (hgrown : i.Grown made made') :
    For i made' ref task := by
  cases h with
  | fresh => exact .fresh
  | asking hs hv hread hrun => exact .asking hs hv hread hrun
  | keeping hv => exact .keeping hv
  | ended hr => exact .ended (hgrown.isSome hr)

theorem for_work {s : ViewSource} {v : View} {q : Asking View} (hs : i.view? ref = some s)
    (hv : i.plainFrom [] ref = .ok (some (.view v)))
    (hread : q.Only (fun other => other ∈ s.read) fun _ => True)
    (hrun : q.run (i.plainFrom []) = .ok v) : For i made ref (work ref [] q) := by
  cases q with
  | done v' =>
    cases hrun
    exact .keeping hv
  | ask other next => exact .asking hs hv hread hrun

/-- How many accesses are left at most. -/
def weight (i : Inventory) : Task → Nat
  | .read ref [] =>
    ((i.view? ref).map fun s => (View.questions s).count (i.plainFrom [])).getD 0 + 3
  | .read other (f :: _) => (Asking.ask other f.next).count (i.plainFrom []) + 2
  | .keep .. => 2
  | .ended _ => 1

theorem weight_work (q : Asking View) :
    (work ref [] q).weight i = q.count (i.plainFrom []) + 2 := by
  cases q <;> rfl

theorem work_ne_fresh (q : Asking View) : work ref [] q ≠ .read ref [] := by
  cases q <;> intro h <;> cases h

/-- What one access does for a worker that was given a view. -/
structure Advance (i : Inventory) (ref : RelationRef) (task : Task) (made : MadeViews)
    (started : Option ViewSource) (task' : Task) (made' : MadeViews) : Prop where
  next : For i made' ref task'
  grown : i.Grown made made'
  started : ∀ s, started = some s → task = .read ref [] ∧ i.view? ref = some s
  begun : task' ≠ .read ref []
  less : task'.weight i < task.weight i

section Step

variable {task task' : Task} {started : Option ViewSource}

/-- The view goes on with an answer that resolution without memory gives as well. -/
theorem advance_answer {s : ViewSource} {v : View} {other : RelationRef}
    {next : Option TableOrView → Asking View} {r : Option TableOrView} (hmade : i.Sound made)
    (hs : i.view? ref = some s) (hv : i.plainFrom [] ref = .ok (some (.view v)))
    (hread : (Asking.ask other next).Only (fun other => other ∈ s.read) fun _ => True)
    (hrun : (Asking.ask other next).run (i.plainFrom []) = .ok v)
    (hr : i.plainFrom [] other = .ok r) :
    Advance i ref (.read other [⟨ref, next⟩]) made none (work ref [] (next r)) made where
  next := by
    rw [Asking.run_ask_of_ok hr] at hrun
    exact for_work hs hv (hread.2 r) hrun
  grown := ⟨hmade, List.prefix_rfl⟩
  started s' h := by cases h
  begun := work_ne_fresh _
  less := by
    have hcount : (Asking.ask other next).count (i.plainFrom []) =
        (next r).count (i.plainFrom []) + 1 := Asking.count_ask hr
    rw [weight_work, weight, hcount]
    omega

theorem advance_ended {r : Option TableOrView} (hgrown : i.Grown made made')
    (hr : (i.available made' ref).isSome) (hless : 1 < task.weight i) :
    Advance i ref task made none (.ended (.ok r)) made' where
  next := .ended hr
  grown := hgrown
  started s h := by cases h
  begun h := by cases h
  less := hless

/-- A worker that was given a view starts no other one, and does not look back. -/
theorem For.step (h : For i made ref task) (hmade : i.Sound made) (href : (i.view? ref).isSome)
    (hok : ∃ r, i.plainFrom [] ref = .ok r)
    (hready : ∀ s, i.view? ref = some s → i.Ready made s)
    (hstep : Step i (task, made) started (task', made')) :
    Advance i ref task made started task' made' := by
  have hsame : i.Grown made made := ⟨hmade, List.prefix_rfl⟩
  cases h with
  | fresh =>
    cases hstep with
    | found hr =>
      refine advance_ended hsame (Option.isSome_of_eq_some hr) ?_
      rw [weight]
      omega
    | absent hr hv =>
      rw [hv] at href
      cases href
    | circle hr hv hp => exact absurd hp List.not_mem_nil
    | start hr hv hp =>
      rename_i s
      obtain ⟨r, hplain⟩ := hok
      obtain ⟨-, v, hrun, rfl⟩ := plainFrom_view_ok (table?_of_not_available hr) hv hplain
      have hfresh : (View.questions s).run (i.plainFrom []) = .ok v :=
        Asking.run_ok_of_meets hrun fun _ _ _ => plainFrom_nil_of_ok
      refine ⟨for_work hv hplain (View.questions_only s) hfresh, hsame, ?_, work_ne_fresh _, ?_⟩
      · rintro s' ⟨⟩
        exact ⟨rfl, hv⟩
      · rw [weight_work, weight, hv]
        exact Nat.lt_succ_self _
  | asking hs hv hread hrun =>
    rename_i s v other next
    cases hstep with
    | found hr => exact advance_answer hmade hs hv hread hrun (hmade.available hr)
    | absent hr hno =>
      exact advance_answer hmade hs hv hread hrun
        (plainFrom_absent (table?_of_not_available hr) hno)
    -- a view that is asked for was there when this one was given out
    | circle hr hv' hp =>
      have hsome := hready s hs other hread.1 (.inr (Option.isSome_of_eq_some hv'))
      rw [hr] at hsome
      cases hsome
    | start hr hv' hp =>
      have hsome := hready s hs other hread.1 (.inr (Option.isSome_of_eq_some hv'))
      rw [hr] at hsome
      cases hsome
  | keeping hv =>
    rename_i v
    cases hstep with
    | kept hr =>
      exact advance_ended hsame (Option.isSome_of_eq_some hr) (Nat.lt_succ_self 1)
    | keep hr =>
      refine advance_ended (hsame.append hv) ?_ (Nat.lt_succ_self 1)
      rw [available_view (table?_of_not_available hr), Option.isSome_map]
      exact List.lookup_isSome_iff.mpr
        ⟨(ref, v), List.mem_append_right made List.mem_cons_self, BEq.rfl⟩
  | ended hr => cases hstep

end Step
end Task
end SchemaLineage
