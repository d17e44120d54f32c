import SchemaLineage.Proofs.Lineage.Acyclic
import SchemaLineage.Proofs.Lineage.Ranks
import SchemaLineage.Proofs.Lineage.Workers
/-
All views, made by several workers at once.

The views of a rank are handed out in order to as many workers as there may be, and the next rank is
begun when all of them have ended (`Call.Step`).  Workers share the views made so far, and any of
them may make the next access, so there are many runs of one call.

They all come to the same.  What carries this is that a view is handed out when all views that it
declares to read are there.  Where projections name no other views, a worker makes none but the one
that it was given.  Each step of the call keeps this (`Call.Inv.step`), and as every view is handed
out once, it is made once.
-/

namespace SchemaLineage

open Inventory

/-- A worker starts to make a view: the view that it was given, the source, and the views that are
made by then. -/
structure Build where
  task : RelationRef
  source : ViewSource
  made : MadeViews

/-- The worker makes the view that it was given.  As far as the inventory has it, all that the view's
projections name is there, and so is all that comes to be asked for. -/
structure Build.InOrder (i : Inventory) (b : Build) : Prop where
  own : b.source.ref = b.task
  named : i.Ready b.made b.source
  asked : (View.questions b.source).Only
    (fun other => i.Has other → (i.available b.made other).isSome) fun _ => True

/-- The state of a call: the views of the ranks that are done, those of the rank that is being
worked on, those among them that nobody has taken yet, and the workers with what they took. -/
structure Call where
  done : List RelationRef
  rank : List RelationRef
  waiting : List RelationRef
  active : List (RelationRef × Task)
  made : MadeViews

namespace Call

/-- A call begins with the first rank, when no circle has been found. -/
def start (i : Inventory) (made : MadeViews) : Call :=
  ⟨[], i.dependencies.firstRank, i.dependencies.firstRank, [], made⟩

/-- The rank that comes next. -/
def upcoming (i : Inventory) (c : Call) : List RelationRef := i.dependencies.release c.done c.rank

/-- Views are taken in the order of the rank, and there is always a worker.  One that met a circle
does not leave; the call fails with it. -/
inductive Step (i : Inventory) (maxWorkers : Int) : Call → Option Build → Call → Prop
  | take {done rank waiting : List RelationRef} {ref : RelationRef}
      {active : List (RelationRef × Task)} {made : MadeViews}
      (h : (active.length : Int) < max 1 maxWorkers) :
      Step i maxWorkers ⟨done, rank, ref :: waiting, active, made⟩ none
        ⟨done, rank, waiting, active ++ [(ref, .read ref [])], made⟩
  | work {done rank waiting : List RelationRef} {ref : RelationRef}
      {before behind : List (RelationRef × Task)} {task task' : Task} {started : Option ViewSource}
      {made made' : MadeViews} (h : Task.Step i (task, made) started (task', made')) :
      Step i maxWorkers ⟨done, rank, waiting, before ++ (ref, task) :: behind, made⟩
        (started.map fun s => ⟨ref, s, made⟩)
        ⟨done, rank, waiting, before ++ (ref, task') :: behind, made'⟩
  | leave {done rank waiting : List RelationRef} {ref : RelationRef}
      {before behind : List (RelationRef × Task)} {r : Option TableOrView} {made : MadeViews} :
      Step i maxWorkers ⟨done, rank, waiting, before ++ (ref, .ended (.ok r)) :: behind, made⟩ none
        ⟨done, rank, waiting, before ++ behind, made⟩
  | next {done rank : List RelationRef} {made : MadeViews}
      (h : i.dependencies.release done rank ≠ []) :
      Step i maxWorkers ⟨done, rank, [], [], made⟩ none
        ⟨done ++ rank, i.dependencies.release done rank, i.dependencies.release done rank, [], made⟩

/-- Steps of a call, with the views that are started on the way. -/
inductive Run (i : Inventory) (maxWorkers : Int) : Call → List Build → Call → Prop
  | refl (c : Call) : Run i maxWorkers c [] c
  | tail {c c' c'' : Call} {builds : List Build} {b : Option Build}
      (h : Run i maxWorkers c builds c') (hstep : Step i maxWorkers c' b c'') :
      Run i maxWorkers c (builds ++ b.toList) c''

/-- The call returns: everybody is finished, and no rank is left. -/
def Over (i : Inventory) (c : Call) : Prop :=
  c.waiting = [] ∧ c.active = [] ∧ c.upcoming i = []

/-- The views that somebody has yet to finish. -/
def pending (c : Call) : List RelationRef := c.waiting ++ c.active.map (·.1)

variable {i : Inventory} {base : MadeViews} {maxWorkers : Int}

/-- What holds all through a call, with the views that were started so far.  The views of the rank
are waiting, taken, or there; and one that was started is not at its first access any more. -/
structure Inv (i : Inventory) (base : MadeViews) (builds : List Build) (c : Call) : Prop where
  ordered : i.dependencies.orderFrom (i.viewRefs.length - c.done.length) c.done c.rank =
    i.dependencies.order
  frontier : i.dependencies.Frontier c.done c.rank
  grown : i.Grown base c.made
  finished : ∀ ref ∈ c.done, (i.available c.made ref).isSome
  nodup : c.pending.Nodup
  inRank : c.pending ⊆ c.rank
  settled : ∀ ref ∈ c.rank, ref ∉ c.pending → (i.available c.made ref).isSome
  tasks : ∀ p ∈ c.active, p.2.For i c.made p.1
  inOrder : ∀ b ∈ builds, b.InOrder i
  once : (builds.map (·.task)).Nodup
  begun : ∀ b ∈ builds, b.task ∈ c.done ++ c.rank ∧ b.task ∉ c.waiting ∧
    (b.task, Task.read b.task []) ∉ c.active

theorem inv_start (hmade : i.Sound base) : Inv i base [] (start i base) := by
  have hfrontier := Graph.frontier_firstRank (i.dependencies_wellFormed)
  have hpending : (start i base).pending = i.dependencies.firstRank := List.append_nil _
  refine ⟨rfl, hfrontier, ⟨hmade, List.prefix_rfl⟩, fun ref h => absurd h List.not_mem_nil, ?_, ?_,
    fun ref h hout => ?_, fun p h => absurd h List.not_mem_nil,
    fun b h => absurd h List.not_mem_nil, List.nodup_nil, fun b h => absurd h List.not_mem_nil⟩
  · rw [hpending]
    exact hfrontier.nodup
  · rw [hpending]
    exact List.Subset.refl _
  · rw [hpending] at hout
    exact absurd h hout

section Facts

variable {c c' : Call} {builds : List Build} {b : Option Build}

/-- A view that is being worked on finds there whatever its projections name. -/
theorem Inv.ready (h : Inv i base builds c) (hd : i.Declared) {ref : RelationRef}
    (href : ref ∈ c.rank) {s : ViewSource} (hs : i.view? ref = some s) : i.Ready c.made s := by
  intro other hread hhas
  cases ht : i.table? other with
  | some t =>
    rw [available_table ht]
    rfl
  | none =>
    have hview : (i.view? other).isSome := by
      rcases hhas with htable | hview
      · rw [ht] at htable
        cases htable
      · exact hview
    have hdeclares : i.Declares ref other :=
      ⟨s, hs, hd s (mem_of_view? hs).1 other hread hview, hview⟩
    have hneeds : other ∈ i.dependencies.needs ref :=
      Graph.mem_needs_of_mem_dependents (leads_iff.mpr hdeclares)
    exact h.finished other (h.frontier.met ref (List.mem_append_right c.done href) hneeds)

theorem Inv.isView (h : Inv i base builds c) {ref : RelationRef} (href : ref ∈ c.rank) :
    (i.view? ref).isSome :=
  mem_viewRefs.mp (h.frontier.nodes (List.mem_append_right c.done href))

/-- What a worker's access does, given what holds all through the call. -/
theorem Inv.advance (h : Inv i base builds c) (hd : i.Declared)
    (hacyclic : ¬ ∃ ref, Relation.TransGen i.Declares ref ref) {ref : RelationRef}
    {task task' : Task} {started : Option ViewSource} {made' : MadeViews}
    (hmem : (ref, task) ∈ c.active) (hstep : Task.Step i (task, c.made) started (task', made')) :
    Task.Advance i ref task c.made started task' made' := by
  have href : ref ∈ c.rank :=
    h.inRank (List.mem_append_right c.waiting (List.mem_map_of_mem hmem))
  exact (h.tasks (ref, task) hmem).step h.grown.sound (h.isView href)
    (plainFrom_ok_of_acyclic hd hacyclic ref) (fun s hs => h.ready hd href hs) hstep

end Facts

section Preserved

variable {done rank waiting : List RelationRef} {ref : RelationRef}
  {active before behind : List (RelationRef × Task)} {made : MadeViews} {builds : List Build}

theorem Inv.take (h : Inv i base builds ⟨done, rank, ref :: waiting, active, made⟩) :
    Inv i base builds ⟨done, rank, waiting, active ++ [(ref, .read ref [])], made⟩ := by
  have hperm : (Call.mk done rank waiting (active ++ [(ref, .read ref [])]) made).pending.Perm
      (Call.mk done rank (ref :: waiting) active made).pending := by
    show (waiting ++ (active ++ [(ref, Task.read ref [])]).map (·.1)).Perm
      (ref :: waiting ++ active.map (·.1))
    rw [List.map_append, ← List.append_assoc]
    exact List.perm_append_singleton ref _
  refine ⟨h.ordered, h.frontier, h.grown, h.finished, hperm.nodup_iff.mpr h.nodup,
    fun r hr => h.inRank (hperm.mem_iff.mp hr),
    fun r hr hout => h.settled r hr fun hin => hout (hperm.mem_iff.mpr hin), ?_, h.inOrder, h.once,
    ?_⟩
  · intro p hp
    rcases List.mem_append.mp hp with hp | hp
    · exact h.tasks p hp
    · rw [List.mem_singleton.mp hp]
      exact .fresh
  · intro b hb
    obtain ⟨hmem, hwaiting, hactive⟩ := h.begun b hb
    refine ⟨hmem, fun hin => hwaiting (List.mem_cons_of_mem ref hin), fun hin => ?_⟩
    rcases List.mem_append.mp hin with hin | hin
    · exact hactive hin
    · have heq : b.task = ref := congrArg Prod.fst (List.mem_singleton.mp hin)
      exact hwaiting (heq ▸ List.mem_cons_self)

/-- A worker that is not at its first access was not there before either, and there is just one for
each view. -/
theorem fresh_of_fresh_after {task task' : Task}
    (hnodup : ((before ++ (ref, task) :: behind).map (·.1)).Nodup) (hbegun : task' ≠ .read ref [])
    {other : RelationRef}
    (hfresh : (other, Task.read other []) ∈ before ++ (ref, task') :: behind) :
    (other, Task.read other []) ∈ before ++ (ref, task) :: behind ∧ other ≠ ref := by
  rw [List.map_append, List.map_cons, List.nodup_append] at hnodup
  obtain ⟨-, hbehind, hapart⟩ := hnodup
  rcases List.mem_append.mp hfresh with hmem | hmem
  · refine ⟨List.mem_append_left _ hmem, ?_⟩
    exact hapart other (List.mem_map_of_mem hmem) ref List.mem_cons_self
  · rcases List.mem_cons.mp hmem with heq | hmem
    · cases heq
      exact absurd rfl hbegun
    · refine ⟨List.mem_append_right _ (List.mem_cons_of_mem _ hmem), fun heq => ?_⟩
      have hname : other ∈ behind.map (·.1) := List.mem_map_of_mem hmem
      rw [heq] at hname
      exact (List.nodup_cons.mp hbehind).1 hname

/-- Nothing that was started is forgotten by an access of a worker. -/
theorem Inv.access (hd : i.Declared) (hacyclic : ¬ ∃ ref, Relation.TransGen i.Declares ref ref)
    {task task' : Task} {started : Option ViewSource} {made' : MadeViews}
    (h : Inv i base builds ⟨done, rank, waiting, before ++ (ref, task) :: behind, made⟩)
    (hstep : Task.Step i (task, made) started (task', made')) :
    Inv i base builds ⟨done, rank, waiting, before ++ (ref, task') :: behind, made'⟩ := by
  have hmem : (ref, task) ∈ before ++ (ref, task) :: behind :=
    List.mem_append_right before List.mem_cons_self
  have hadvance := h.advance hd hacyclic hmem hstep
  have hpending : (Call.mk done rank waiting (before ++ (ref, task') :: behind) made').pending =
      (Call.mk done rank waiting (before ++ (ref, task) :: behind) made).pending := by
    simp only [pending, List.map_append, List.map_cons]
  refine ⟨h.ordered, h.frontier,
    ⟨hadvance.grown.sound, h.grown.extends_base.trans hadvance.grown.extends_base⟩,
    fun r hr => hadvance.grown.isSome (h.finished r hr), ?_, ?_, ?_, ?_, h.inOrder, h.once, ?_⟩
  · rw [hpending]
    exact h.nodup
  · rw [hpending]
    exact h.inRank
  · rw [hpending]
    exact fun r hr hout => hadvance.grown.isSome (h.settled r hr hout)
  · intro p hp
    rcases List.mem_append.mp hp with hp | hp
    · exact (h.tasks p (List.mem_append_left _ hp)).mono hadvance.grown
    · rcases List.mem_cons.mp hp with rfl | hp
      · exact hadvance.next
      · have hold := h.tasks p (List.mem_append_right _ (List.mem_cons_of_mem _ hp))
        exact hold.mono hadvance.grown
  · intro b hb
    obtain ⟨hin, hwaiting, hactive⟩ := h.begun b hb
    have hnames := (List.nodup_append.mp h.nodup).2.1
    exact ⟨hin, hwaiting, fun hfresh =>
      hactive (fresh_of_fresh_after hnames hadvance.begun hfresh).1⟩

/-- A view that was not started before may be. -/
theorem Inv.begin {c : Call} {b : Build} (h : Inv i base builds c) (hinOrder : b.InOrder i)
    (hnew : b.task ∉ builds.map (·.task)) (hbegun : b.task ∈ c.done ++ c.rank ∧
      b.task ∉ c.waiting ∧ (b.task, Task.read b.task []) ∉ c.active) :
    Inv i base (builds ++ [b]) c := by
  refine ⟨h.ordered, h.frontier, h.grown, h.finished, h.nodup, h.inRank, h.settled, h.tasks,
    ?_, ?_, ?_⟩
  · intro b' hb'
    rcases List.mem_append.mp hb' with hb' | hb'
    · exact h.inOrder b' hb'
    · exact List.mem_singleton.mp hb' ▸ hinOrder
  · rw [List.map_append, List.map_singleton]
    exact h.once.append (List.nodup_singleton _) (List.disjoint_singleton.mpr hnew)
  · intro b' hb'
    rcases List.mem_append.mp hb' with hb' | hb'
    · exact h.begun b' hb'
    · exact List.mem_singleton.mp hb' ▸ hbegun

theorem Inv.work (hd : i.Declared) (hacyclic : ¬ ∃ ref, Relation.TransGen i.Declares ref ref)
    {task task' : Task} {started : Option ViewSource} {made' : MadeViews}
    (h : Inv i base builds ⟨done, rank, waiting, before ++ (ref, task) :: behind, made⟩)
    (hstep : Task.Step i (task, made) started (task', made')) :
    Inv i base (builds ++ (started.map fun s => Build.mk ref s made).toList)
      ⟨done, rank, waiting, before ++ (ref, task') :: behind, made'⟩ := by
  have haccess := h.access hd hacyclic hstep
  cases started with
  | none => simpa only [Option.map_none, Option.toList_none, List.append_nil] using haccess
  | some s =>
    have hmem : (ref, task) ∈ before ++ (ref, task) :: behind :=
      List.mem_append_right before List.mem_cons_self
    have hadvance := h.advance hd hacyclic hmem hstep
    obtain ⟨rfl, hs⟩ := hadvance.started s rfl
    obtain ⟨-, hnames, hapart⟩ := List.nodup_append.mp h.nodup
    have href : ref ∈ rank := h.inRank (List.mem_append_right waiting (List.mem_map_of_mem hmem))
    have hready : i.Ready made s := h.ready hd href hs
    have hinOrder : Build.InOrder i ⟨ref, s, made⟩ :=
      ⟨(mem_of_view? hs).2, hready, (View.questions_only s).imp hready fun _ _ => trivial⟩
    refine haccess.begin hinOrder (fun hold => ?_)
      ⟨List.mem_append_right done href, fun hwaiting => ?_, fun hfresh => ?_⟩
    · obtain ⟨b, hb, rfl⟩ := List.mem_map.mp hold
      exact (h.begun b hb).2.2 hmem
    · exact hapart ref hwaiting ref (List.mem_map_of_mem hmem) rfl
    · exact (fresh_of_fresh_after hnames hadvance.begun hfresh).2 rfl

theorem Inv.leave {r : Option TableOrView}
    (h : Inv i base builds
      ⟨done, rank, waiting, before ++ (ref, .ended (.ok r)) :: behind, made⟩) :
    Inv i base builds ⟨done, rank, waiting, before ++ behind, made⟩ := by
  have hsublist : (before ++ behind).Sublist (before ++ (ref, Task.ended (.ok r)) :: behind) :=
    List.Sublist.append_left (List.sublist_cons_self _ _) before
  have hpending : (Call.mk done rank waiting (before ++ behind) made).pending.Sublist
      (Call.mk done rank waiting (before ++ (ref, .ended (.ok r)) :: behind) made).pending :=
    List.Sublist.append_left (hsublist.map _) waiting
  refine ⟨h.ordered, h.frontier, h.grown, h.finished, hpending.nodup h.nodup,
    fun r hr => h.inRank (hpending.subset hr), ?_, fun p hp => h.tasks p (hsublist.subset hp),
    h.inOrder, h.once, fun b hb => ?_⟩
  · intro other hother hout
    by_cases heq : other = ref
    · have hended := h.tasks (ref, .ended (.ok r)) (List.mem_append_right before List.mem_cons_self)
      cases hended with
      | ended hr => exact heq ▸ hr
    · refine h.settled other hother fun hin => hout ?_
      simp only [pending, List.map_append, List.map_cons, List.mem_append, List.mem_cons] at hin ⊢
      rcases hin with hin | hin | hin | hin
      · exact .inl hin
      · exact .inr (.inl hin)
      · exact absurd hin heq
      · exact .inr (.inr hin)
  · obtain ⟨hin, hwaiting, hactive⟩ := h.begun b hb
    exact ⟨hin, hwaiting, fun hmem => hactive (hsublist.subset hmem)⟩

/-- The steps left suffice for a whole rank, so the next one is what the order goes on with. -/
theorem Inv.order_next {c : Call} (h : Inv i base builds c) :
    i.dependencies.orderFrom (i.viewRefs.length - (c.done ++ c.rank).length) (c.done ++ c.rank)
      (c.upcoming i) = i.dependencies.order := by
  have hlen : c.done.length + c.rank.length ≤ i.viewRefs.length := h.frontier.length_le
  have hsteps : i.viewRefs.length - c.done.length =
      c.rank.length + (i.viewRefs.length - (c.done ++ c.rank).length) := by
    rw [List.length_append]
    omega
  have hordered := h.ordered
  have hqueued := i.dependencies.orderFrom_rank c.rank
    (i.viewRefs.length - (c.done ++ c.rank).length) c.done []
  rw [List.append_nil, List.nil_append, ← hsteps] at hqueued
  exact hqueued.symm.trans hordered

theorem Inv.next (h : Inv i base builds ⟨done, rank, [], [], made⟩) :
    Inv i base builds ⟨done ++ rank, i.dependencies.release done rank,
      i.dependencies.release done rank, [], made⟩ := by
  have hfrontier := h.frontier.next dependencies_wellFormed
  have hpending : (Call.mk (done ++ rank) (i.dependencies.release done rank)
      (i.dependencies.release done rank) [] made).pending = i.dependencies.release done rank :=
    List.append_nil _
  have hfinished : ∀ ref ∈ done ++ rank, (i.available made ref).isSome := by
    intro ref href
    rcases List.mem_append.mp href with href | href
    · exact h.finished ref href
    · exact h.settled ref href List.not_mem_nil
  refine ⟨h.order_next, hfrontier, h.grown, hfinished, ?_, ?_, ?_,
    fun p hp => absurd hp List.not_mem_nil, h.inOrder, h.once, fun b hb => ?_⟩
  · rw [hpending]
    exact (List.nodup_append.mp hfrontier.nodup).2.1
  · rw [hpending]
    exact List.Subset.refl _
  · rw [hpending]
    exact fun r hr hout => absurd hr hout
  · have hdone := (h.begun b hb).1
    refine ⟨List.mem_append_left _ hdone, fun hin => ?_, List.not_mem_nil⟩
    exact (List.nodup_append.mp hfrontier.nodup).2.2 b.task hdone b.task hin rfl

end Preserved

section Runs

variable {c c' : Call} {builds : List Build} {b : Option Build}

/-- Every step keeps what holds all through a call. -/
theorem Inv.step (hd : i.Declared) (hacyclic : ¬ ∃ ref, Relation.TransGen i.Declares ref ref)
    (h : Inv i base builds c) (hstep : Step i maxWorkers c b c') :
    Inv i base (builds ++ b.toList) c' := by
  cases hstep with
  | take _ => simpa only [Option.toList_none, List.append_nil] using h.take
  | work hwork => exact h.work hd hacyclic hwork
  | leave => simpa only [Option.toList_none, List.append_nil] using h.leave
  | next _ => simpa only [Option.toList_none, List.append_nil] using h.next

theorem inv_of_run (hd : i.Declared) (hacyclic : ¬ ∃ ref, Relation.TransGen i.Declares ref ref)
    (hmade : i.Sound base) (h : Run i maxWorkers (start i base) builds c) :
    Inv i base builds c := by
  induction h with
  | refl => exact inv_start hmade
  | tail _ hstep ih => exact ih.step hd hacyclic hstep

theorem Inv.not_failed (h : Inv i base builds c) {p : RelationRef × Task} (hp : p ∈ c.active)
    (e : ViewCycle) : p.2 ≠ .ended (.error e) := by
  intro heq
  have hfor := h.tasks p hp
  rw [heq] at hfor
  cases hfor

/-- A call that does not return yet can go on. -/
theorem Inv.exists_step (maxWorkers : Int) (h : Inv i base builds c) :
    c.Over i ∨ ∃ b c', Step i maxWorkers c b c' := by
  obtain ⟨done, rank, waiting, active, made⟩ := c
  cases active with
  | nil =>
    cases waiting with
    | nil =>
      by_cases hnext : i.dependencies.release done rank = []
      · exact .inl ⟨rfl, rfl, hnext⟩
      · exact .inr ⟨_, _, .next hnext⟩
    | cons ref waiting =>
      refine .inr ⟨_, _, .take ?_⟩
      show ((0 : Nat) : Int) < max 1 maxWorkers
      omega
  | cons p behind =>
    obtain ⟨ref, task⟩ := p
    have hfor := h.tasks (ref, task) List.mem_cons_self
    rcases Task.exists_step (i := i) task made with
      ⟨outcome, rfl⟩ | ⟨started, ⟨task', made'⟩, hstep⟩
    · cases hfor with
      | @ended r _ =>
        have hleave : Step i maxWorkers
            ⟨done, rank, waiting, [] ++ (ref, .ended (.ok r)) :: behind, made⟩ none
            ⟨done, rank, waiting, [] ++ behind, made⟩ := .leave
        exact .inr ⟨_, _, hleave⟩
    · have hwork : Step i maxWorkers ⟨done, rank, waiting, [] ++ (ref, task) :: behind, made⟩
          (started.map fun s => ⟨ref, s, made⟩)
          ⟨done, rank, waiting, [] ++ (ref, task') :: behind, made'⟩ := .work hstep
      exact .inr ⟨_, _, hwork⟩

/-! ## Every run ends -/

/-- How many accesses the workers have left at most. -/
def accesses (i : Inventory) : List (RelationRef × Task) → Nat
  | [] => 0
  | p :: ps => p.2.weight i + accesses i ps

theorem accesses_append (ps qs : List (RelationRef × Task)) :
    accesses i (ps ++ qs) = accesses i ps + accesses i qs := by
  induction ps with
  | nil => exact (Nat.zero_add _).symm
  | cons p ps ih =>
    rw [List.cons_append, accesses, accesses, ih]
    omega

/-- What is left to do: views that are not done, views that nobody has taken, and accesses. -/
def remaining (i : Inventory) (c : Call) : Nat × Nat × Nat :=
  (i.viewRefs.length - c.done.length, c.waiting.length, accesses i c.active)

def Less : Nat × Nat × Nat → Nat × Nat × Nat → Prop :=
  Prod.Lex (· < ·) (Prod.Lex (· < ·) (· < ·))

theorem less_wf : WellFounded Less :=
  WellFounded.prod_lex Nat.lt_wfRel.wf (WellFounded.prod_lex Nat.lt_wfRel.wf Nat.lt_wfRel.wf)

theorem Inv.less (hd : i.Declared) (hacyclic : ¬ ∃ ref, Relation.TransGen i.Declares ref ref)
    (h : Inv i base builds c) (hstep : Step i maxWorkers c b c') :
    Less (c'.remaining i) (c.remaining i) := by
  cases hstep with
  | take _ => exact .right _ (.left _ _ (Nat.lt_succ_self _))
  | work hwork =>
    rename_i done rank waiting ref before behind task task' started made made'
    have hmem : (ref, task) ∈ before ++ (ref, task) :: behind :=
      List.mem_append_right before List.mem_cons_self
    have hless := (h.advance hd hacyclic hmem hwork).less
    refine .right _ (.right _ ?_)
    simp only [accesses_append, accesses]
    omega
  | leave =>
    refine .right _ (.right _ ?_)
    simp only [accesses_append, accesses, Task.weight]
    omega
  | next hnext =>
    rename_i done rank made
    have hlen : done.length + rank.length ≤ i.viewRefs.length := h.frontier.length_le
    have hrank : 0 < rank.length := by
      rw [List.length_pos_iff]
      rintro rfl
      exact hnext rfl
    refine .left _ _ ?_
    simp only [List.length_append]
    omega

/-- There is no run without an end. -/
theorem Inv.acc (hd : i.Declared) (hacyclic : ¬ ∃ ref, Relation.TransGen i.Declares ref ref)
    (h : Inv i base builds c) : Acc (fun c' c => ∃ b, Step i maxWorkers c b c') c := by
  induction hm : c.remaining i using less_wf.induction generalizing c builds with
  | _ m ih =>
    refine Acc.intro c fun c' ⟨b, hstep⟩ => ?_
    exact ih (c'.remaining i) (hm ▸ h.less hd hacyclic hstep) (h.step hd hacyclic hstep) rfl

/-- Where every run can go on until the call returns, and none is without an end, one returns. -/
theorem Run.exists_over {c₀ : Call} (hrun : Run i maxWorkers c₀ builds c)
    (hacc : Acc (fun c' c => ∃ b, Step i maxWorkers c b c') c)
    (hgo : ∀ builds c, Run i maxWorkers c₀ builds c →
      c.Over i ∨ ∃ b c', Step i maxWorkers c b c') :
    ∃ builds c, Run i maxWorkers c₀ builds c ∧ c.Over i := by
  induction hacc generalizing builds with
  | intro c _ ih =>
    rcases hgo builds c hrun with hover | ⟨b, c', hstep⟩
    · exact ⟨builds, c, hrun, hover⟩
    · exact ih c' ⟨b, hstep⟩ (hrun.tail hstep)

/-! ## All runs come to the same -/

/-- The ranks one after another are the order in which views are made one by one. -/
theorem Inv.done_eq_order (h : Inv i base builds c) (hover : c.Over i) :
    c.done ++ c.rank = i.dependencies.order := by
  have horder := h.order_next
  rwa [hover.2.2, Graph.orderFrom_nil] at horder

theorem Inv.all_available (hacyclic : ¬ ∃ ref, Relation.TransGen i.Declares ref ref)
    (h : Inv i base builds c) (hover : c.Over i) :
    ∀ ref ∈ i.viewRefs, (i.available c.made ref).isSome := by
  intro ref href
  rw [← order_perm_viewRefs (cycle?_dependencies_eq_none_iff.mpr hacyclic) |>.mem_iff,
    ← h.done_eq_order hover] at href
  rcases List.mem_append.mp href with href | href
  · exact h.finished ref href
  · refine h.settled ref href ?_
    rw [pending, hover.1, hover.2.1]
    exact List.not_mem_nil

end Runs
end Call

namespace Inventory

variable {i : Inventory} {made : MadeViews}

/-- Sound views among which no view is missing answer everything. -/
theorem plainFrom_eq_of_all (hmade : i.Sound made)
    (hok : ∀ ref, ∃ r, i.plainFrom [] ref = .ok r)
    (hall : ∀ ref ∈ i.viewRefs, (i.available made ref).isSome) (ref : RelationRef) :
    i.plainFrom [] ref = .ok (i.available made ref) := by
  obtain ⟨r, hr⟩ := hok ref
  refine plainFrom_eq_available hmade hr fun hsome => ?_
  cases ht : i.table? ref with
  | some t =>
    rw [available_table ht]
    rfl
  | none =>
    cases hv : i.view? ref with
    | some s => exact hall ref (mem_viewRefs.mpr (Option.isSome_of_eq_some hv))
    | none =>
      rw [plainFrom_absent ht hv] at hr
      cases hr
      cases hsome

/-- One worker that takes one view after another leaves no view out. -/
theorem resolveAll_on_all (hd : i.Declared)
    (hacyclic : ¬ ∃ ref, Relation.TransGen i.Declares ref ref) (hmade : i.Sound made) :
    ∃ made', i.resolveAll.on made = (.ok (i.viewRefs.filterMap (i.available made')), made') ∧
      ∀ ref, i.plainFrom [] ref = .ok (i.available made' ref) := by
  have hcycle := cycle?_dependencies_eq_none_iff.mpr hacyclic
  have hok := plainFrom_ok_of_acyclic hd hacyclic
  obtain ⟨rs, made', hon, hgrown, hthere⟩ :=
    mapM_resolve_on hmade fun ref (_ : ref ∈ i.dependencies.order) => hok ref
  refine ⟨made', ?_, plainFrom_eq_of_all hgrown.sound hok fun ref href => ?_⟩
  · rw [resolveAll, hcycle]
    exact Resolving.on_bind_ok hon
  · have horder := (order_perm_viewRefs hcycle).mem_iff.mpr href
    exact isSome_of_plainFrom_view (mem_viewRefs.mp href) (hthere ref horder)

/-- Whatever the number of workers is, and whoever makes the next access.  When a worker starts to
make a view, it is the one that it was given, everything that the view reads is there, and the view
has not been started before.  No worker meets a circle, the call goes on until it returns, and it
returns: then the views were made rank by rank in the order in which one worker makes them, and the
views that are there and those that are returned are the same as if one worker had made them. -/
theorem resolveAll_schedules (i : Inventory) (hd : i.Declared)
    (hacyclic : ¬ ∃ ref, Relation.TransGen i.Declares ref ref) (requests : List Request)
    (maxWorkers : Int) :
    (∀ builds c, Call.Run i maxWorkers (.start i (i.after requests)) builds c →
      (∀ b ∈ builds, b.InOrder i) ∧ (builds.map fun b => b.source.ref).Nodup ∧
      (∀ p ∈ c.active, ∀ e, p.2 ≠ .ended (.error e)) ∧
      (c.Over i ∨ ∃ b c', Call.Step i maxWorkers c b c') ∧
      (c.Over i → c.done ++ c.rank = i.dependencies.order ∧
        (∀ ref ∈ i.viewRefs, (i.available c.made ref).isSome) ∧
        (i.resolveAll.on (i.after requests)).1 = .ok (i.viewRefs.filterMap (i.available c.made)) ∧
        ∀ ref, i.available c.made ref =
          i.available (i.resolveAll.on (i.after requests)).2 ref)) ∧
    Acc (fun c' c => ∃ b, Call.Step i maxWorkers c b c') (.start i (i.after requests)) := by
  have hmade := i.sound_after requests
  refine ⟨fun builds c hrun => ?_, (Call.inv_start hmade).acc hd hacyclic⟩
  have hinv := Call.inv_of_run hd hacyclic hmade hrun
  have hbuilt : (builds.map fun b => b.source.ref) = builds.map (·.task) :=
    List.map_congr_left fun b hb => (hinv.inOrder b hb).own
  refine ⟨hinv.inOrder, hbuilt ▸ hinv.once, fun p hp e => hinv.not_failed hp e,
    hinv.exists_step maxWorkers,
    fun hover => ⟨hinv.done_eq_order hover, hinv.all_available hacyclic hover, ?_⟩⟩
  obtain ⟨made', hon, hplain⟩ := resolveAll_on_all hd hacyclic hmade
  have hsame : ∀ ref, i.available c.made ref = i.available made' ref := by
    intro ref
    have hcall := plainFrom_eq_of_all hinv.grown.sound (plainFrom_ok_of_acyclic hd hacyclic)
      (hinv.all_available hacyclic hover) ref
    exact Except.ok.inj (hcall.symm.trans (hplain ref))
  rw [hon, funext hsame]
  exact ⟨rfl, fun ref => rfl⟩

/-- Two views over a table, which may be made at once, and one over both. -/
def sharedViews : Inventory where
  tables := [
    (⟨"s", "t", .table⟩,
      { name := "t", schemaName := "s", columns := [{ name := "id", ordinalPosition := 1 }] })]
  views := [
    { ref := ⟨"s", "c", .view⟩
      rows := [{ name := "id", ordinalPosition := 1 }]
      analysis := some {
        sources := [⟨"s", "b", .view⟩, ⟨"s", "a", .view⟩]
        projections := [.direct ⟨"s", "a", .view⟩ "id" "id"] } },
    { ref := ⟨"s", "a", .view⟩
      rows := [{ name := "id", ordinalPosition := 1 }]
      analysis := some {
        sources := [⟨"s", "t", .table⟩]
        projections := [.wildcard (some ⟨"s", "t", .table⟩)] } },
    { ref := ⟨"s", "b", .view⟩
      rows := [{ name := "id", ordinalPosition := 1 }]
      analysis := some {
        sources := [⟨"s", "t", .table⟩]
        projections := [.direct ⟨"s", "t", .table⟩ "id" "id"] } }]

theorem sharedViews_schedules :
    sharedViews.Declared ∧ (¬ ∃ ref, Relation.TransGen sharedViews.Declares ref ref) ∧
      (Call.start sharedViews []).waiting = [⟨"s", "b", .view⟩, ⟨"s", "a", .view⟩] ∧
      ∃ builds c, Call.Run sharedViews 2 (.start sharedViews []) builds c ∧ c.Over sharedViews ∧
        (∀ b ∈ builds, b.InOrder sharedViews) ∧
        c.done ++ c.rank = [⟨"s", "b", .view⟩, ⟨"s", "a", .view⟩, ⟨"s", "c", .view⟩] ∧
        (sharedViews.resolveAll.on []).1 =
          .ok (sharedViews.viewRefs.filterMap (sharedViews.available c.made)) := by
  have hdeclared : sharedViews.Declared := by
    unfold Declared
    decide
  have hacyclic : ¬ ∃ ref, Relation.TransGen sharedViews.Declares ref ref :=
    cycle?_dependencies_eq_none_iff.mp (by decide +kernel)
  obtain ⟨hruns, hacc⟩ := resolveAll_schedules sharedViews hdeclared hacyclic [] 2
  obtain ⟨builds, c, hrun, hover⟩ := Call.Run.exists_over (.refl _) hacc
    fun builds c hrun => (hruns builds c hrun).2.2.2.1
  obtain ⟨hinOrder, -, -, -, hend⟩ := hruns builds c hrun
  obtain ⟨horder, -, hreturned, -⟩ := hend hover
  have hvalue : sharedViews.dependencies.order =
      [⟨"s", "b", .view⟩, ⟨"s", "a", .view⟩, ⟨"s", "c", .view⟩] := by decide +kernel
  exact ⟨hdeclared, hacyclic, by decide +kernel, builds, c, hrun, hover, hinOrder,
    horder.trans hvalue, hreturned⟩

end Inventory
end SchemaLineage
