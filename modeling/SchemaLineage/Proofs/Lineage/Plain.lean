import Mathlib.Logic.Relation
import SchemaLineage.Lineage.Resolution
import SchemaLineage.Proofs.Lineage.Asking
import SchemaLineage.Proofs.Outcome
/-
Resolution without memory.

`Inventory.plainFrom` makes every relation anew each time it is asked for and keeps nothing.  What
it does with a reference depends on the path alone, so its successes can be compared: one that is
reached along a path is reached along any part of it (`plainFrom_of_subset`), and one that is
reached with an empty path is reached along every path on which nothing stands that the reference
consults (`plainFrom_of_apart`).  A view that consults itself never succeeds.

`Consults` is the relation of the questions that are really asked, with the answers that are really
given; it is part of what the projections name, but a projection that no row takes is never
followed.
-/

namespace SchemaLineage

namespace Asking

variable {ε α : Type}

/-- With these answers the question is come to. -/
inductive Meets (find : RelationRef → Except ε (Option TableOrView)) : Asking α → RelationRef → Prop
  | here (ref : RelationRef) (next : Option TableOrView → Asking α) : Meets find (ask ref next) ref
  | later {ref : RelationRef} {next : Option TableOrView → Asking α} {r : Option TableOrView}
      {other : RelationRef} (hr : find ref = .ok r) (h : Meets find (next r) other) :
      Meets find (ask ref next) other

theorem run_ask_ok {find : RelationRef → Except ε (Option TableOrView)} {ref : RelationRef}
    {next : Option TableOrView → Asking α} {a : α} (h : (ask ref next).run find = .ok a) :
    ∃ r, find ref = .ok r ∧ (next r).run find = .ok a := by
  cases hr : find ref with
  | error e => simp [run, hr, bind, Except.bind] at h
  | ok r =>
    refine ⟨r, rfl, ?_⟩
    simpa [run, hr, bind, Except.bind] using h

theorem run_ask_of_ok {find : RelationRef → Except ε (Option TableOrView)} {ref : RelationRef}
    {next : Option TableOrView → Asking α} {r : Option TableOrView} (hr : find ref = .ok r) :
    (ask ref next).run find = (next r).run find := by
  rw [run, hr]
  rfl

/-- A run that succeeds does so wherever the questions it meets have the same answers. -/
theorem run_ok_of_meets {f g : RelationRef → Except ε (Option TableOrView)} {q : Asking α} {a : α}
    (h : q.run f = .ok a) (hfg : ∀ ref, q.Meets f ref → ∀ r, f ref = .ok r → g ref = .ok r) :
    q.run g = .ok a := by
  induction q with
  | done b => exact h
  | ask ref next ih =>
    obtain ⟨r, hr, hrest⟩ := run_ask_ok h
    rw [run_ask_of_ok (hfg ref (.here ref next) r hr)]
    exact ih r hrest fun other hother => hfg other (.later hr hother)

theorem ok_of_meets {f g : RelationRef → Except ε (Option TableOrView)} {q : Asking α} {a : α}
    (h : q.run f = .ok a) (hfg : ∀ ref r, f ref = .ok r → g ref = .ok r) {ref : RelationRef}
    (hmeets : q.Meets g ref) : ∃ r, f ref = .ok r := by
  induction hmeets with
  | here ref next =>
    obtain ⟨r, hr, -⟩ := run_ask_ok h
    exact ⟨r, hr⟩
  | later hg _ ih =>
    obtain ⟨r, hr, hrest⟩ := run_ask_ok h
    have heq := (hfg _ r hr).symm.trans hg
    cases heq
    exact ih hrest

end Asking

namespace Inventory

variable {i : Inventory} {path : List RelationRef} {ref : RelationRef}

/-- The relation that a reference denotes, made anew whenever it is asked for. -/
def plainFrom (i : Inventory) (path : List RelationRef) (ref : RelationRef) :
    Except ViewCycle (Option TableOrView) :=
  match i.table? ref with
  | some t => .ok (some (.table t))
  | none =>
    match _ : i.view? ref with
    | none => .ok none
    | some s =>
      if _ : ref ∈ path then .error (.closing path ref)
      else do
        let v ← (View.questions s).run fun r => i.plainFrom (path ++ [ref]) r
        return some (.view v)
termination_by i.offPath path
decreasing_by
  rename_i hs hp
  have h := mem_of_view? hs
  exact h.2 ▸ offPath_append_lt h.1 (h.2 ▸ hp)

theorem plainFrom_table {t : Table} (ht : i.table? ref = some t) :
    i.plainFrom path ref = .ok (some (.table t)) := by
  rw [plainFrom, ht]

theorem plainFrom_absent (ht : i.table? ref = none) (hv : i.view? ref = none) :
    i.plainFrom path ref = .ok none := by
  rw [plainFrom, ht]
  simp only
  split
  · rfl
  · rename_i h
    rw [hv] at h
    cases h

theorem plainFrom_view {s : ViewSource} (ht : i.table? ref = none) (hv : i.view? ref = some s) :
    i.plainFrom path ref =
      if ref ∈ path then .error (.closing path ref)
      else do
        let v ← (View.questions s).run (i.plainFrom (path ++ [ref]))
        return some (.view v) := by
  rw [plainFrom, ht]
  simp only
  split
  · rename_i h
    rw [hv] at h
    cases h
  · rename_i s' h
    rw [hv] at h
    cases h
    simp only [dite_eq_ite]

/-- A view that is made is not on the path, and its questions are answered along the longer one. -/
theorem plainFrom_view_ok {s : ViewSource} {r : Option TableOrView} (ht : i.table? ref = none)
    (hv : i.view? ref = some s) (h : i.plainFrom path ref = .ok r) :
    ref ∉ path ∧ ∃ v, (View.questions s).run (i.plainFrom (path ++ [ref])) = .ok v ∧
      r = some (.view v) := by
  rw [plainFrom_view ht hv] at h
  by_cases hp : ref ∈ path
  · rw [if_pos hp] at h
    cases h
  · rw [if_neg hp] at h
    refine ⟨hp, ?_⟩
    cases hrun : (View.questions s).run (i.plainFrom (path ++ [ref])) with
    | error c => rw [hrun] at h; cases h
    | ok v => rw [hrun] at h; cases h; exact ⟨v, rfl, rfl⟩

theorem plainFrom_view_of_run {s : ViewSource} {v : View} (ht : i.table? ref = none)
    (hv : i.view? ref = some s) (hp : ref ∉ path)
    (h : (View.questions s).run (i.plainFrom (path ++ [ref])) = .ok v) :
    i.plainFrom path ref = .ok (some (.view v)) := by
  rw [plainFrom_view ht hv, if_neg hp, h]
  rfl

/-- What is made along a path is made along any part of it. -/
theorem plainFrom_of_subset {path part : List RelationRef} {ref : RelationRef}
    {r : Option TableOrView} (h : i.plainFrom path ref = .ok r) (hsub : part ⊆ path) :
    i.plainFrom part ref = .ok r := by
  cases ht : i.table? ref with
  | some t => rw [plainFrom_table ht] at h ⊢; exact h
  | none =>
    cases hv : i.view? ref with
    | none => rw [plainFrom_absent ht hv] at h ⊢; exact h
    | some s =>
      obtain ⟨hp, v, hrun, rfl⟩ := plainFrom_view_ok ht hv h
      refine plainFrom_view_of_run ht hv (fun hmem => hp (hsub hmem)) ?_
      refine Asking.run_ok_of_meets hrun fun other _ r hr => ?_
      exact plainFrom_of_subset hr (List.append_subset.mpr
        ⟨List.subset_append_of_subset_left _ hsub, List.subset_append_right _ _⟩)
termination_by i.offPath path
decreasing_by
  have hmem := mem_of_view? hv
  exact hmem.2 ▸ offPath_append_lt hmem.1 (hmem.2 ▸ hp)

theorem plainFrom_nil_of_ok {r : Option TableOrView} (h : i.plainFrom path ref = .ok r) :
    i.plainFrom [] ref = .ok r :=
  plainFrom_of_subset h (List.nil_subset path)

/-- Making one view, with the answers that all make, comes to ask for another relation. -/
def Consults (i : Inventory) (ref other : RelationRef) : Prop :=
  i.table? ref = none ∧ ∃ s, i.view? ref = some s ∧ (View.questions s).Meets (i.plainFrom []) other

theorem plainFrom_ok_of_consults {other : RelationRef} {r : Option TableOrView}
    (h : i.plainFrom path ref = .ok r) (hc : i.Consults ref other) :
    ∃ r', i.plainFrom (path ++ [ref]) other = .ok r' := by
  obtain ⟨ht, s, hv, hmeets⟩ := hc
  obtain ⟨-, v, hrun, -⟩ := plainFrom_view_ok ht hv h
  exact Asking.ok_of_meets hrun (fun _ _ => plainFrom_nil_of_ok) hmeets

theorem plainFrom_ok_of_transGen {other : RelationRef} {r : Option TableOrView}
    (h : i.plainFrom path ref = .ok r) (hc : Relation.TransGen i.Consults ref other) :
    ∃ longer, path ++ [ref] ⊆ longer ∧ ∃ r', i.plainFrom longer other = .ok r' := by
  induction hc with
  | single hc => exact ⟨_, List.Subset.refl _, plainFrom_ok_of_consults h hc⟩
  | tail _ hc ih =>
    obtain ⟨longer, hsub, r', hr'⟩ := ih
    exact ⟨_, List.Subset.trans hsub (List.subset_append_left longer _),
      plainFrom_ok_of_consults hr' hc⟩

theorem not_consults_self {r : Option TableOrView} (h : i.plainFrom path ref = .ok r) :
    ¬ Relation.TransGen i.Consults ref ref := by
  intro hself
  obtain ⟨other, ⟨ht, s, hv, -⟩, -⟩ := Relation.TransGen.head'_iff.mp hself
  obtain ⟨longer, hsub, r', hr'⟩ := plainFrom_ok_of_transGen h hself
  exact (plainFrom_view_ok ht hv hr').1 (hsub (List.mem_append_right path List.mem_cons_self))

/-- What is made from nothing is made along every path that keeps apart from what it consults. -/
theorem plainFrom_of_apart {path : List RelationRef} {ref : RelationRef}
    {r : Option TableOrView} (h : i.plainFrom [] ref = .ok r)
    (hapart : ∀ other, Relation.ReflTransGen i.Consults ref other → other ∉ path) :
    i.plainFrom path ref = .ok r := by
  cases ht : i.table? ref with
  | some t => rw [plainFrom_table ht] at h ⊢; exact h
  | none =>
    cases hv : i.view? ref with
    | none => rw [plainFrom_absent ht hv] at h ⊢; exact h
    | some s =>
      have hp : ref ∉ path := hapart ref .refl
      obtain ⟨-, v, hrun, rfl⟩ := plainFrom_view_ok ht hv h
      have hfresh : (View.questions s).run (i.plainFrom []) = .ok v :=
        Asking.run_ok_of_meets hrun fun _ _ _ => plainFrom_nil_of_ok
      refine plainFrom_view_of_run ht hv hp ?_
      refine Asking.run_ok_of_meets hfresh fun other hmeets r hr => ?_
      have hc : i.Consults ref other := ⟨ht, s, hv, hmeets⟩
      refine plainFrom_of_apart hr fun far hfar hmem => ?_
      rcases List.mem_append.mp hmem with hmem | hmem
      · exact hapart far (.head hc hfar) hmem
      · rw [List.mem_singleton.mp hmem] at hfar
        exact not_consults_self h (.head' hc hfar)
termination_by i.offPath path
decreasing_by
  have hmem := mem_of_view? hv
  exact hmem.2 ▸ offPath_append_lt hmem.1 (hmem.2 ▸ hp)

end Inventory
end SchemaLineage
