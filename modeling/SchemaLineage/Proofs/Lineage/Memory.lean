import SchemaLineage.Proofs.Lineage.Plain
/-
Resolution that keeps the views it makes answers as resolution without memory does.

Two invariants carry this.  The views made so far are `Sound`: each is what would be made of its
reference from nothing.  The path is a `Trail`: each relation on it consults, directly or through
others, the one that is asked for.  A view that is found among those made was made from nothing, so
it does not consult itself; on a trail it therefore consults nothing that stands on the path, and
would have been made along this path as well.  A view on a circle is never kept, since keeping it
takes a success.
-/

namespace SchemaLineage

namespace Resolving

variable {α β : Type}

/-- The outcome of a computation that starts with some views made, and the views made then. -/
def on (x : Resolving α) (made : MadeViews) : Except ViewCycle α × MadeViews := x.run.run made

theorem on_pure (a : α) (made : MadeViews) : (pure a : Resolving α).on made = (.ok a, made) := rfl

theorem on_get (made : MadeViews) : (get : Resolving MadeViews).on made = (.ok made, made) := rfl

theorem on_bind_ok {x : Resolving α} {k : α → Resolving β} {made made' : MadeViews} {a : α}
    (h : x.on made = (.ok a, made')) : (x >>= k).on made = (k a).on made' := by
  have h' : x.run.run made = pure (.ok a, made') := h
  simp only [on, ExceptT.run_bind, StateT.run_bind, h', pure_bind]

theorem on_bind_error {x : Resolving α} {k : α → Resolving β} {made made' : MadeViews}
    {c : ViewCycle} (h : x.on made = (.error c, made')) :
    (x >>= k).on made = (.error c, made') := by
  have h' : x.run.run made = pure (.error c, made') := h
  simp only [on, ExceptT.run_bind, StateT.run_bind, h', pure_bind]
  rfl

theorem on_bind_inv {x : Resolving α} {k : α → Resolving β} {made made' : MadeViews} {b : β}
    (h : (x >>= k).on made = (.ok b, made')) :
    ∃ a made'', x.on made = (.ok a, made'') ∧ (k a).on made'' = (.ok b, made') := by
  cases hx : x.on made with
  | mk outcome made'' =>
    cases outcome with
    | error c => rw [on_bind_error hx] at h; cases h
    | ok a => exact ⟨a, made'', rfl, (on_bind_ok hx).symm.trans h⟩

/-- From views that satisfy an invariant a computation comes to an outcome and keeps the
invariant. -/
def Yields (x : Resolving α) (Inv : MadeViews → Prop) (outcome : Except ViewCycle α) : Prop :=
  ∀ made, Inv made → ∃ made', x.on made = (outcome, made') ∧ Inv made'

variable {Inv : MadeViews → Prop}

theorem Yields.bind {x : Resolving α} {k : α → Resolving β} {outcome : Except ViewCycle α}
    {next : α → Except ViewCycle β} (hx : x.Yields Inv outcome)
    (hk : ∀ a, outcome = .ok a → (k a).Yields Inv (next a)) :
    (x >>= k).Yields Inv (outcome >>= next) := by
  intro made hmade
  obtain ⟨made', hon, hmade'⟩ := hx made hmade
  cases houtcome : outcome with
  | error c =>
    rw [houtcome] at hon
    exact ⟨made', on_bind_error hon, hmade'⟩
  | ok a =>
    rw [houtcome] at hon
    rw [on_bind_ok hon]
    exact hk a houtcome made' hmade'

theorem Yields.pure (a : α) : (pure a : Resolving α).Yields Inv (.ok a) :=
  fun made hmade => ⟨made, on_pure a made, hmade⟩

theorem Yields.mapM {f : β → Resolving α} {g : β → Except ViewCycle α} {bs : List β}
    (h : ∀ b ∈ bs, (f b).Yields Inv (g b)) : (bs.mapM f).Yields Inv (bs.mapM g) := by
  induction bs with
  | nil => exact Yields.pure []
  | cons b bs ih =>
    simp only [List.mapM_cons]
    refine (h b List.mem_cons_self).bind fun a _ => ?_
    refine (ih fun c hc => h c (List.mem_cons_of_mem b hc)).bind fun as _ => ?_
    exact Yields.pure (a :: as)

/-- Questions that are answered alike give the same outcome. -/
theorem Yields.run {q : Asking α} {find : RelationRef → Resolving (Option TableOrView)}
    {plain : RelationRef → Except ViewCycle (Option TableOrView)}
    (h : ∀ ref, q.Meets plain ref → (find ref).Yields Inv (plain ref)) :
    (q.run find).Yields Inv (q.run plain) := by
  induction q with
  | done a => exact Yields.pure a
  | ask ref next ih =>
    refine (h ref (.here ref next)).bind fun r hr => ?_
    exact ih r fun other hother => h other (.later hr hother)

end Resolving

theorem Asking.Meets.imp {ε α : Type} {f g : RelationRef → Except ε (Option TableOrView)}
    {q : Asking α} {ref : RelationRef} (h : q.Meets f ref)
    (hfg : ∀ other r, f other = .ok r → g other = .ok r) : q.Meets g ref := by
  induction h with
  | here ref next => exact .here ref next
  | later hr _ ih => exact .later (hfg _ _ hr) ih

namespace Inventory

open Resolving

variable {i : Inventory}

/-- Every view that was made is what would be made from nothing. -/
def Sound (i : Inventory) (made : MadeViews) : Prop :=
  ∀ ref v, (ref, v) ∈ made → i.plainFrom [] ref = .ok (some (.view v))

theorem Sound.nil : i.Sound [] := fun _ _ h => absurd h List.not_mem_nil

theorem Sound.append {made : MadeViews} {ref : RelationRef} {v : View} (h : i.Sound made)
    (hv : i.plainFrom [] ref = .ok (some (.view v))) : i.Sound (made ++ [(ref, v)]) := by
  intro ref' v' hmem
  rcases List.mem_append.mp hmem with hmem | hmem
  · exact h ref' v' hmem
  · cases List.mem_singleton.mp hmem
    exact hv

theorem Sound.lookup {made : MadeViews} {ref : RelationRef} {v : View} (h : i.Sound made)
    (hv : made.lookup ref = some v) : i.plainFrom [] ref = .ok (some (.view v)) := by
  obtain ⟨before, after, rfl, -⟩ := List.lookup_eq_some_iff.mp hv
  exact h ref v (List.mem_append_right before List.mem_cons_self)

/-- Sound views that were made after some others. -/
structure Grown (i : Inventory) (base made : MadeViews) : Prop where
  sound : i.Sound made
  extends_base : base <+: made

theorem Grown.append {base made : MadeViews} {ref : RelationRef} {v : View}
    (h : i.Grown base made) (hv : i.plainFrom [] ref = .ok (some (.view v))) :
    i.Grown base (made ++ [(ref, v)]) :=
  ⟨h.sound.append hv, h.extends_base.trans (List.prefix_append made _)⟩

/-- All relations on the path lead to the one that is asked for. -/
def Trail (i : Inventory) (path : List RelationRef) (ref : RelationRef) : Prop :=
  ∀ p ∈ path, Relation.TransGen i.Consults p ref

theorem Trail.nil (ref : RelationRef) : i.Trail [] ref := fun _ h => absurd h List.not_mem_nil

theorem Trail.append {path : List RelationRef} {ref other : RelationRef} (h : i.Trail path ref)
    (hc : i.Consults ref other) : i.Trail (path ++ [ref]) other := by
  intro p hp
  rcases List.mem_append.mp hp with hp | hp
  · exact (h p hp).tail hc
  · rw [List.mem_singleton.mp hp]
    exact .single hc

/-- On a trail nothing is lost by not starting from nothing. -/
theorem plainFrom_of_trail {path : List RelationRef} {ref : RelationRef} {r : Option TableOrView}
    (htrail : i.Trail path ref) (h : i.plainFrom [] ref = .ok r) : i.plainFrom path ref = .ok r :=
  plainFrom_of_apart h fun other hother hmem =>
    not_consults_self h (Relation.TransGen.trans_right hother (htrail other hmem))

section Cases

variable {path : List RelationRef} {ref : RelationRef} {made : MadeViews}

theorem resolveFrom_on_table {t : Table} (ht : i.table? ref = some t) :
    (i.resolveFrom path ref).on made = (.ok (some (.table t)), made) := by
  rw [resolveFrom, ht]
  rfl

theorem resolveFrom_on_made {v : View} (ht : i.table? ref = none) (hv : made.lookup ref = some v) :
    (i.resolveFrom path ref).on made = (.ok (some (.view v)), made) := by
  rw [resolveFrom, ht]
  refine (on_bind_ok (on_get made)).trans ?_
  rw [hv]
  rfl

theorem resolveFrom_on_absent (ht : i.table? ref = none) (hl : made.lookup ref = none)
    (hv : i.view? ref = none) : (i.resolveFrom path ref).on made = (.ok none, made) := by
  rw [resolveFrom, ht]
  refine (on_bind_ok (on_get made)).trans ?_
  rw [hl]
  simp only
  split
  · rfl
  · rename_i h
    rw [hv] at h
    cases h

theorem resolveFrom_on_view {s : ViewSource} (ht : i.table? ref = none)
    (hl : made.lookup ref = none) (hv : i.view? ref = some s) :
    (i.resolveFrom path ref).on made =
      if ref ∈ path then (.error (.closing path ref), made)
      else
        (do
          let v ← (View.questions s).run (i.resolveFrom (path ++ [ref]))
          modify fun made => made ++ [(ref, v)]
          return some (.view v) : Resolving (Option TableOrView)).on made := by
  rw [resolveFrom, ht]
  refine (on_bind_ok (on_get made)).trans ?_
  rw [hl]
  simp only
  split
  · rename_i h
    rw [hv] at h
    cases h
  · rename_i s' h
    rw [hv] at h
    cases h
    by_cases hp : ref ∈ path
    · rw [if_pos hp, dif_pos hp]
      rfl
    · rw [if_neg hp, dif_neg hp, View.ofSource_eq_run]

end Cases

theorem yields_keep {base : MadeViews} {ref : RelationRef} {v : View}
    (hv : i.plainFrom [] ref = .ok (some (.view v))) :
    (do
      modify fun made => made ++ [(ref, v)]
      return some (.view v) : Resolving (Option TableOrView)).Yields (i.Grown base)
        (.ok (some (.view v))) :=
  fun made hmade => ⟨made ++ [(ref, v)], rfl, hmade.append hv⟩

/-- On a trail, and with sound views made so far, memory changes no answer. -/
theorem resolveFrom_yields {base : MadeViews} {path : List RelationRef} {ref : RelationRef}
    (htrail : i.Trail path ref) :
    (i.resolveFrom path ref).Yields (i.Grown base) (i.plainFrom path ref) := by
  intro made hmade
  cases ht : i.table? ref with
  | some t =>
    rw [plainFrom_table ht, resolveFrom_on_table ht]
    exact ⟨made, rfl, hmade⟩
  | none =>
    cases hl : made.lookup ref with
    | some v =>
      rw [plainFrom_of_trail htrail (hmade.sound.lookup hl), resolveFrom_on_made ht hl]
      exact ⟨made, rfl, hmade⟩
    | none =>
      cases hv : i.view? ref with
      | none =>
        rw [plainFrom_absent ht hv, resolveFrom_on_absent ht hl hv]
        exact ⟨made, rfl, hmade⟩
      | some s =>
        rw [plainFrom_view ht hv, resolveFrom_on_view ht hl hv]
        by_cases hp : ref ∈ path
        · rw [if_pos hp, if_pos hp]
          exact ⟨made, rfl, hmade⟩
        · rw [if_neg hp, if_neg hp]
          have hquestions : ((View.questions s).run (i.resolveFrom (path ++ [ref]))).Yields
              (i.Grown base) ((View.questions s).run (i.plainFrom (path ++ [ref]))) :=
            Yields.run fun other hmeets => resolveFrom_yields
              (htrail.append ⟨ht, s, hv, hmeets.imp fun _ _ => plainFrom_nil_of_ok⟩)
          refine (hquestions.bind fun v hrun => ?_) made hmade
          exact yields_keep (plainFrom_nil_of_ok (plainFrom_view_of_run ht hv hp hrun))
termination_by i.offPath path
decreasing_by
  have hmem := mem_of_view? hv
  exact hmem.2 ▸ offPath_append_lt hmem.1 (hmem.2 ▸ hp)

theorem resolve_yields (base : MadeViews) (ref : RelationRef) :
    (i.resolve ref).Yields (i.Grown base) (i.plainFrom [] ref) :=
  resolveFrom_yields (Trail.nil ref)

section Available

variable {made made' : MadeViews} {ref : RelationRef}

theorem available_table {t : Table} (ht : i.table? ref = some t) :
    i.available made ref = some (.table t) := by
  rw [available, ht]

theorem available_view (ht : i.table? ref = none) :
    i.available made ref = (made.lookup ref).map .view := by
  rw [available, ht]

theorem Sound.available {r : TableOrView} (h : i.Sound made) (hr : i.available made ref = some r) :
    i.plainFrom [] ref = .ok (some r) := by
  cases ht : i.table? ref with
  | some t =>
    rw [available_table ht] at hr
    cases hr
    exact plainFrom_table ht
  | none =>
    rw [available_view ht] at hr
    obtain ⟨v, hv, rfl⟩ := Option.map_eq_some_iff.mp hr
    exact h.lookup hv

theorem Grown.available {r : TableOrView} (h : i.Grown made made')
    (hr : i.available made ref = some r) : i.available made' ref = some r := by
  cases ht : i.table? ref with
  | some t =>
    rw [available_table ht] at hr ⊢
    exact hr
  | none =>
    rw [available_view ht] at hr ⊢
    obtain ⟨v, hv, rfl⟩ := Option.map_eq_some_iff.mp hr
    rw [h.extends_base.lookup_eq_some hv]
    rfl

theorem available_of_resolveFrom {path : List RelationRef} {r : TableOrView}
    (h : (i.resolveFrom path ref).on made = (.ok (some r), made')) :
    (i.available made' ref).isSome := by
  cases ht : i.table? ref with
  | some t => rw [available_table ht]; rfl
  | none =>
    rw [available_view ht, Option.isSome_map]
    cases hl : made.lookup ref with
    | some v =>
      rw [resolveFrom_on_made ht hl] at h
      cases h
      rw [hl]
      rfl
    | none =>
      cases hv : i.view? ref with
      | none => rw [resolveFrom_on_absent ht hl hv] at h; cases h
      | some s =>
        rw [resolveFrom_on_view ht hl hv] at h
        by_cases hp : ref ∈ path
        · rw [if_pos hp] at h
          cases h
        · rw [if_neg hp] at h
          obtain ⟨v, made'', -, hkeep⟩ := on_bind_inv h
          have hkept : (Except.ok (some (TableOrView.view v)), made'' ++ [(ref, v)]) =
            ((.ok (some r), made') : Except ViewCycle _ × MadeViews) := hkeep
          cases hkept
          exact List.lookup_isSome_iff.mpr
            ⟨(ref, v), List.mem_append_right made'' List.mem_cons_self, BEq.rfl⟩

end Available

end Inventory
end SchemaLineage
