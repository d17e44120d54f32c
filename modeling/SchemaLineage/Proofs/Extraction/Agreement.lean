import SchemaLineage.Proofs.Extraction.Inventory
/-
What an analysis follows is there when the views are made.

A pass that returns a result has made all its views.  The relations that an analysis names are
known, so each of them denotes a relation of the result, with just the columns that the analysis was
shown.
What is written for relations and columns that are not found is then never used: a wildcard stands
for nothing that could be told only when it stands for no relation, and every column that a row is
to copy is copied (`Followed`).

The calls for other relations that making a view leads to are those that the view consults, and so
all of them are on a trail; this is what carries the answers from a new resolver to one that is in
the middle of its work.
-/

namespace SchemaLineage

namespace Inventory

open Resolving

variable {i : Inventory}

/-- An item is found when its relation is made and has the column that the item copies. -/
def Found (i : Inventory) : Projection → Prop
  | .direct source column _ =>
    ∃ r, i.plainFrom [] source = .ok (some r) ∧ (r.toRelation.column? column).isSome
  | .wildcard (some source) => ∃ r, i.plainFrom [] source = .ok (some r)
  | .wildcard none => True
  | .untraced _ => True

theorem column?_isSome {r : Relation} {name : String} (h : name ∈ r.columns.map (·.name)) :
    (r.column? name).isSome := by
  obtain ⟨c, hc, hname⟩ := List.mem_map.mp h
  rw [Relation.column?, List.find?_isSome]
  exact ⟨c, hc, beq_iff_eq.mpr hname⟩

/-- What an item that is found stands for, and that the columns it copies are there. -/
theorem Found.outputsOf {p : Projection} (h : i.Found p) {item : Option (List Output)}
    (hitem : View.outputsOf (i.plainFrom []) p = .ok item) :
    (item = none ↔ p = .wildcard none) ∧
      ∀ outputs, item = some outputs → ∀ o ∈ outputs, ∀ source column,
        o.origin = some (source, column) → i.Found (.direct source column o.name) := by
  cases p with
  | direct source column name =>
    cases hitem
    refine ⟨by simp, fun outputs houtputs o ho source' column' horigin => ?_⟩
    cases houtputs
    rw [List.mem_singleton.mp ho] at horigin ⊢
    cases horigin
    exact h
  | untraced name =>
    cases hitem
    refine ⟨by simp, fun outputs houtputs o ho source' column' horigin => ?_⟩
    cases houtputs
    rw [List.mem_singleton.mp ho] at horigin
    cases horigin
  | wildcard source =>
    cases source with
    | none =>
      cases hitem
      exact ⟨by simp, fun outputs houtputs => by cases houtputs⟩
    | some source =>
      obtain ⟨r, hr⟩ := h
      obtain ⟨r', hr', hitem⟩ := bind_ok_inv hitem
      rw [hr] at hr'
      cases hr'
      cases hitem
      refine ⟨by simp, fun outputs houtputs o ho source' column' horigin => ?_⟩
      cases houtputs
      obtain ⟨c, hc, rfl⟩ := List.mem_map.mp ho
      cases horigin
      exact ⟨r, hr, column?_isSome (List.mem_map.mpr ⟨c, hc, rfl⟩)⟩

end Inventory

namespace Catalog

end Catalog
end SchemaLineage
