/-
Dependencies between things that are made from one another: a cycle if there is one, and otherwise
an order in which everything comes after what it needs.

`Graph.search` follows the arrows from a node to those that need it.  A cycle is a node that is met
again on the way that led to it, so a reported walk starts and ends with the same node and each
entry is needed by the next.
-/

namespace SchemaLineage

/-- Nodes, each once, and for each of them those that it needs, which are nodes as well. -/
structure Graph (α : Type) where
  nodes : List α
  needs : α → List α

namespace Graph

variable {α : Type} [DecidableEq α]

/-- The nodes that need a node. -/
def dependents (g : Graph α) (n : α) : List α := g.nodes.filter fun m => n ∈ g.needs m

/-- The nodes in the order in which they are spoken of, each before those it needs. -/
def mentioned (g : Graph α) : List α := (g.nodes.flatMap fun n => n :: g.needs n).eraseDups

/-- Visit a node and, depth first, all that hangs on it.  `path` leads to the node and `seen` holds
what was visited so far; the result is a cycle or all that has been seen then. -/
def search (g : Graph α) : Nat → List α → List α → α → Except (List α) (List α)
  | 0, _, seen, _ => .ok seen
  | depth + 1, path, seen, n =>
    if n ∈ path then .error (path.dropWhile (· ≠ n) ++ [n])
    else if n ∈ seen then .ok seen
    else (g.dependents n).foldlM (fun seen m => g.search depth (path ++ [n]) seen m) (n :: seen)

/-- A closed walk along the arrows, if there is any.  A path has each node at most once, so it is
no longer than the list of nodes. -/
def cycle? (g : Graph α) : Option (List α) :=
  match g.mentioned.foldlM (g.search (g.nodes.length + 1) []) [] with
  | .error walk => some walk
  | .ok _ => none

/-- Take the first node that is ready, and after the others those that became ready by it. -/
def orderFrom (g : Graph α) : Nat → List α → List α → List α
  | 0, done, _ => done
  | _, done, [] => done
  | n + 1, done, first :: ready =>
    let done := done ++ [first]
    let more := (g.dependents first).filter fun m => g.needs m ⊆ done
    g.orderFrom n done (ready ++ more)

/-- The nodes, each after those it needs; those on a cycle or behind one are left out. -/
def order (g : Graph α) : List α :=
  g.orderFrom g.nodes.length [] (g.mentioned.filter fun n => (g.needs n).isEmpty)

/-- What a node of a reported walk is needed by comes next. -/
theorem mem_needs_of_mem_dependents {g : Graph α} {n m : α} (h : m ∈ g.dependents n) :
    n ∈ g.needs m := by
  simpa [dependents] using (List.mem_filter.mp h).2

end Graph
end SchemaLineage
