import Mathlib.Data.Fintype.Card
import Mathlib.Data.Fintype.EquivFin
import Mathlib.Data.Fintype.Sets
import SchemaLineage.Proofs.Lineage.Cycle
/-
When there is no cycle, `Graph.order` holds every node, each after those it needs.

The nodes that are done and those that are ready form a `Frontier`: every node whose needs are done
is one of them.  Taking the first ready node keeps that, so when none is ready any more, a node that
is left out needs another one that is left out, and so on, which without a cycle cannot go on.
-/

namespace SchemaLineage

theorem nodup_eraseDups {α : Type} [DecidableEq α] (l : List α) : l.eraseDups.Nodup := by
  induction h : l.length using Nat.strongRecOn generalizing l with
  | _ n ih =>
    cases l with
    | nil => exact List.nodup_nil
    | cons a l =>
      rw [List.eraseDups_cons]
      have hlen := List.length_filter_le (fun b => !b == a) l
      refine List.nodup_cons.mpr ⟨fun hmem => ?_, ih _ ?_ _ rfl⟩
      · have := (List.mem_filter.mp (List.mem_eraseDups.mp hmem)).2
        simp at this
      · rw [List.length_cons] at h
        omega

theorem eraseDups_of_nodup {α : Type} [DecidableEq α] {l : List α} (h : l.Nodup) :
    l.eraseDups = l := by
  induction l with
  | nil => rfl
  | cons a l ih =>
    obtain ⟨ha, hl⟩ := List.nodup_cons.mp h
    have hkept : l.filter (fun b => !b == a) = l := by
      rw [List.filter_eq_self]
      intro b hb
      have hne : b ≠ a := fun heq => ha (heq ▸ hb)
      simpa using hne
    rw [List.eraseDups_cons, hkept, ih hl]

namespace Graph

variable {α : Type} [DecidableEq α] {g : Graph α}

/-- The nodes that are done, each after those it needs, and those that could be done next. -/
structure Frontier (g : Graph α) (done ready : List α) : Prop where
  nodup : (done ++ ready).Nodup
  nodes : done ++ ready ⊆ g.nodes
  met : ∀ n ∈ done ++ ready, g.needs n ⊆ done
  sorted : done.Pairwise fun a b => b ∉ g.needs a
  all : ∀ n ∈ g.nodes, g.needs n ⊆ done → n ∈ done ++ ready

theorem frontier_start (hg : g.WellFormed) :
    g.Frontier [] (g.mentioned.filter fun n => (g.needs n).isEmpty) where
  nodup := (nodup_eraseDups _).filter _
  nodes n hn := mem_nodes_of_mentioned hg (List.mem_filter.mp hn).1
  met n hn := by
    have hempty := (List.mem_filter.mp hn).2
    rw [List.isEmpty_iff.mp hempty]
    exact List.Subset.refl _
  sorted := List.Pairwise.nil
  all n hn hneeds := by
    refine List.mem_filter.mpr ⟨mem_mentioned hn, ?_⟩
    rw [List.subset_nil.mp hneeds]
    rfl

/-- A node that became ready by the first one was neither done nor ready before. -/
theorem Frontier.step {done ready : List α} {first : α} (hg : g.WellFormed)
    (h : g.Frontier done (first :: ready)) :
    g.Frontier (done ++ [first])
      (ready ++ (g.dependents first).filter fun m => g.needs m ⊆ done ++ [first]) := by
  have happ : ∀ more, done ++ [first] ++ (ready ++ more) = done ++ first :: ready ++ more := by simp
  have hfirst : first ∉ done := fun hmem =>
    (List.nodup_append.mp h.nodup).2.2 first hmem first List.mem_cons_self rfl
  refine ⟨?_, ?_, ?_, ?_, ?_⟩
  · rw [happ]
    refine List.nodup_append.mpr ⟨h.nodup, (hg.nodup.filter _).filter _, ?_⟩
    rintro m hm _ hm' rfl
    have hneeds := (mem_dependents.mp (List.mem_filter.mp hm').1).2
    exact hfirst (h.met m hm hneeds)
  · rw [happ]
    refine List.append_subset.mpr ⟨h.nodes, fun m hm => ?_⟩
    exact (mem_dependents.mp (List.mem_filter.mp hm).1).1
  · intro m hm
    rw [happ] at hm
    rcases List.mem_append.mp hm with hm | hm
    · exact List.Subset.trans (h.met m hm) (List.subset_append_left done [first])
    · simpa using (List.mem_filter.mp hm).2
  · refine List.pairwise_append.mpr ⟨h.sorted, List.pairwise_singleton _ _, ?_⟩
    intro a ha b hb hneeds
    rw [List.mem_singleton.mp hb] at hneeds
    exact hfirst (h.met a (List.mem_append_left _ ha) hneeds)
  · intro m hm hneeds
    rw [happ]
    by_cases hold : g.needs m ⊆ done
    · exact List.mem_append_left _ (h.all m hm hold)
    · refine List.mem_append_right _ (List.mem_filter.mpr ⟨?_, by simpa using hneeds⟩)
      refine mem_dependents.mpr ⟨hm, ?_⟩
      by_contra hnot
      refine hold fun k hk => ?_
      rcases List.mem_append.mp (hneeds hk) with hk' | hk'
      · exact hk'
      · rw [List.mem_singleton.mp hk'] at hk
        exact absurd hk hnot

/-- The order is a frontier with nothing ready: as many steps are taken as there are nodes. -/
theorem Frontier.orderFrom {n : Nat} {done ready : List α} (hg : g.WellFormed)
    (h : g.Frontier done ready) (hn : g.nodes.length ≤ n + done.length) :
    g.Frontier (g.orderFrom n done ready) [] := by
  induction n generalizing done ready with
  | zero =>
    have hlen := (List.subperm_of_subset h.nodup h.nodes).length_le
    have hready : ready = [] := by
      rw [List.length_append] at hlen
      exact List.length_eq_zero_iff.mp (by omega)
    subst hready
    exact h
  | succ n ih =>
    cases ready with
    | nil => exact h
    | cons first ready =>
      refine ih (h.step hg) ?_
      rw [List.length_append, List.length_singleton]
      omega

theorem order_frontier (hg : g.WellFormed) : g.Frontier g.order [] :=
  (frontier_start hg).orderFrom hg (Nat.le_add_right _ _)

/-- Without a cycle one cannot go back from a node to what it needs forever. -/
theorem acc_leads (hg : g.WellFormed) (h : ¬ ∃ n, Relation.TransGen g.Leads n n) (n : α) :
    Acc g.Leads n := by
  let Before (a b : {n // n ∈ g.nodes}) : Prop := Relation.TransGen g.Leads a.1 b.1
  have htrans : IsTrans _ Before := ⟨fun _ _ _ => Relation.TransGen.trans⟩
  have hirrefl : Std.Irrefl Before := ⟨fun a ha => h ⟨a.1, ha⟩⟩
  have hfinite : Finite {n // n ∈ g.nodes} := Finite.of_fintype _
  have hwf : WellFounded Before := Finite.wellFounded_of_trans_of_irrefl Before
  have hin : ∀ a : {n // n ∈ g.nodes}, Acc g.Leads a.1 := by
    intro a
    induction a using hwf.induction with
    | _ a ih =>
      refine Acc.intro a.1 fun m hm => ?_
      exact ih ⟨m, hg.closed a.1 a.2 (mem_dependents.mp hm).2⟩ (.single hm)
  exact Acc.intro n fun m hm =>
    have hn := mem_dependents.mp hm
    hin ⟨m, hg.closed n hn.1 hn.2⟩

/-- When nothing is ready any more and there is no cycle, everything is done. -/
theorem Frontier.perm {done : List α} (hg : g.WellFormed)
    (hacyclic : ¬ ∃ n, Relation.TransGen g.Leads n n) (h : g.Frontier done []) :
    done.Perm g.nodes := by
  have hnodup : done.Nodup := by simpa using h.nodup
  refine (List.perm_ext_iff_of_nodup hnodup hg.nodup).mpr fun n => ⟨fun hn => ?_, fun hn => ?_⟩
  · exact h.nodes (List.mem_append_left [] hn)
  · induction acc_leads hg hacyclic n with
    | intro n _ ih =>
      have hall := h.all n hn fun m hm =>
        ih m (mem_dependents.mpr ⟨hn, hm⟩) (hg.closed n hn hm)
      simpa using hall

theorem order_perm (hg : g.WellFormed) (h : ¬ ∃ n, Relation.TransGen g.Leads n n) :
    g.order.Perm g.nodes := (order_frontier hg).perm hg h

theorem order_sorted (hg : g.WellFormed) : g.order.Pairwise fun a b => b ∉ g.needs a :=
  (order_frontier hg).sorted

end Graph
end SchemaLineage
