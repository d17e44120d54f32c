import SchemaLineage.Proofs.Lineage.Order
/-
The order in ranks.

`Graph.order` takes one node after another.  Where nodes are worked on together, all that are ready
are taken at once, as a rank, and the next rank is what became ready when all of them were reported
done.  As a node that becomes ready is queued behind those that are, the ranks one after another are
the order itself (`orderFrom_rank`), and what holds between two nodes holds between two ranks.
-/

namespace SchemaLineage
namespace Graph

variable {α : Type} {g : Graph α}

theorem Frontier.length_le {done rank : List α} (h : g.Frontier done rank) :
    done.length + rank.length ≤ g.nodes.length := by
  have hlen := (List.subperm_of_subset h.nodup h.nodes).length_le
  rwa [List.length_append] at hlen

variable [DecidableEq α]

/-- The nodes that need nothing. -/
def firstRank (g : Graph α) : List α := g.mentioned.filter fun n => (g.needs n).isEmpty

/-- The nodes that become ready when those of a rank are reported done, one after another. -/
def release (g : Graph α) (done : List α) : List α → List α
  | [] => []
  | n :: rank =>
    ((g.dependents n).filter fun m => g.needs m ⊆ done ++ [n]) ++ g.release (done ++ [n]) rank

theorem frontier_firstRank (hg : g.WellFormed) : g.Frontier [] g.firstRank := frontier_start hg

/-- Taking a whole rank leaves what it releases behind those that were queued. -/
theorem orderFrom_rank (rank : List α) (steps : Nat) (done queued : List α) :
    g.orderFrom (rank.length + steps) done (rank ++ queued) =
      g.orderFrom steps (done ++ rank) (queued ++ g.release done rank) := by
  induction rank generalizing done queued with
  | nil => simp only [List.length_nil, Nat.zero_add, List.nil_append, List.append_nil, release]
  | cons n rank ih =>
    have hsteps : (n :: rank).length + steps = rank.length + steps + 1 := by
      rw [List.length_cons]
      omega
    rw [hsteps, List.cons_append, orderFrom, List.append_assoc, ih, release]
    simp only [List.append_assoc, List.singleton_append]

theorem orderFrom_nil (steps : Nat) (done : List α) : g.orderFrom steps done [] = done := by
  cases steps <;> rfl

/-- The nodes of a rank can be reported done together. -/
theorem Frontier.rank (hg : g.WellFormed) {rank done queued : List α}
    (h : g.Frontier done (rank ++ queued)) :
    g.Frontier (done ++ rank) (queued ++ g.release done rank) := by
  induction rank generalizing done queued with
  | nil => simpa only [List.append_nil, List.nil_append, release] using h
  | cons n rank ih =>
    rw [List.cons_append] at h
    have hstep := h.step hg
    rw [List.append_assoc] at hstep
    have hrest := ih hstep
    simpa only [release, List.append_assoc, List.singleton_append] using hrest

theorem Frontier.next (hg : g.WellFormed) {done rank : List α} (h : g.Frontier done rank) :
    g.Frontier (done ++ rank) (g.release done rank) := by
  have hqueued : g.Frontier done (rank ++ []) := by rwa [List.append_nil]
  exact hqueued.rank hg

end Graph
end SchemaLineage
