import SchemaLineage.Lineage.Graph
import SchemaLineage.Lineage.Trace
/-
Views over views.

A relation is looked up among the tables, then among the views made so far, and is otherwise made
from its source, which may ask for further relations.  A view that asks for itself on the way is
refused; the views made before that stay available.
-/

namespace SchemaLineage

/-- A walk from a view back to itself. -/
structure ViewCycle where
  walk : List RelationRef
  deriving DecidableEq, Repr

namespace ViewCycle

def names (c : ViewCycle) : List String := c.walk.map (·.qualifiedName)

def message (c : ViewCycle) : String := "Cyclic view dependency: " ++ " -> ".intercalate c.names

/-- The part of the path that starts with a relation, and the relation again. -/
def closing (path : List RelationRef) (ref : RelationRef) : ViewCycle :=
  ⟨path.dropWhile (· ≠ ref) ++ [ref]⟩

end ViewCycle

/-- The views made so far. -/
abbrev MadeViews := List (RelationRef × View)

/-- A computation that may meet a cycle, and keeps the views it made even then. -/
abbrev Resolving := ExceptT ViewCycle (StateM MadeViews)

namespace Inventory

/-- How many listed views are not on the path. -/
def offPath (i : Inventory) (path : List RelationRef) : Nat :=
  (i.views.filter fun s => s.ref ∉ path).length

theorem offPath_append_lt {i : Inventory} {path : List RelationRef} {s : ViewSource}
    (hs : s ∈ i.views) (hp : s.ref ∉ path) : i.offPath (path ++ [s.ref]) < i.offPath path := by
  have hsub : (i.views.filter fun t => t.ref ∉ path ++ [s.ref]) =
      (i.views.filter fun t => t.ref ∉ path).filter fun t => t.ref ≠ s.ref := by
    simp only [List.filter_filter, List.mem_append, List.mem_singleton]
    congr 1; funext t; by_cases h1 : t.ref ∈ path <;> by_cases h2 : t.ref = s.ref <;> simp [h1, h2]
  unfold offPath
  rw [hsub]
  apply Nat.lt_of_le_of_ne (List.length_filter_le _ _)
  intro heq
  have hall := List.length_filter_eq_length_iff.mp heq s (by simp [hs, hp])
  simp at hall

/-- The relation that a reference denotes, asked for by the views on the path. -/
def resolveFrom (i : Inventory) (path : List RelationRef) (ref : RelationRef) :
    Resolving (Option TableOrView) := do
  match i.table? ref with
  | some t => return some (.table t)
  | none =>
    match (← get).lookup ref with
    | some v => return some (.view v)
    | none =>
      match _ : i.view? ref with
      | none => return none
      | some s =>
        if _ : ref ∈ path then throw (.closing path ref)
        else
          let v ← View.ofSource (fun r => i.resolveFrom (path ++ [ref]) r) s
          modify fun made => made ++ [(ref, v)]
          return some (.view v)
termination_by i.offPath path
decreasing_by
  rename_i hs hp
  have h := mem_of_view? hs
  exact h.2 ▸ offPath_append_lt h.1 (h.2 ▸ hp)

/-- The relation that a reference denotes, if it is one of this inventory. -/
def resolve (i : Inventory) (ref : RelationRef) : Resolving (Option TableOrView) :=
  i.resolveFrom [] ref

/-- Which views declare to read which. -/
def dependencies (i : Inventory) : Graph RelationRef where
  nodes := i.viewRefs
  needs ref :=
    (((i.view? ref).map (·.sources)).getD []).filter fun r => (i.view? r).isSome

/-- What a reference denotes without making anything. -/
def available (i : Inventory) (made : MadeViews) (ref : RelationRef) : Option TableOrView :=
  match i.table? ref with
  | some t => some (.table t)
  | none => (made.lookup ref).map .view

/-- All views, as listed.  They are made in an order in which each comes after those it reads, and
none is made when they read each other in a circle. -/
def resolveAll (i : Inventory) : Resolving (List TableOrView) := do
  match i.dependencies.cycle? with
  | some walk => throw ⟨walk⟩
  | none =>
    let _ ← i.dependencies.order.mapM i.resolve
    return i.viewRefs.filterMap (i.available (← get))

end Inventory
end SchemaLineage
