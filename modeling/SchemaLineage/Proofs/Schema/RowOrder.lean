import Mathlib.Data.List.Sort
import Mathlib.Logic.Equiv.Fin.Rotate
import SchemaLineage.Proofs.Schema.ForeignKeys
/-
The order of the rows from which a table is built.

Catalogs list rows in whatever order they like.  Columns are sorted by their positions, so their
order says nothing as long as no two of them share a position.  Constraints are read in order, but
the order of two of them only counts when both are foreign keys over one column: the first one
decides where the column points.  A `Rearrangement` of constraints keeps that order and is free
otherwise.

What makes a column is the primary keys with it, in any order, and the foreign keys with it, in
their order.  Any two of the latter overlap, so a rearrangement leaves them in the same order
(`Rearrangement.filter_eq`).
-/

namespace SchemaLineage

namespace ConstraintRow

/-- Two foreign keys over one column. -/
def Overlaps (k l : ConstraintRow) : Prop :=
  k.kind = .foreignKey ∧ l.kind = .foreignKey ∧ ∃ c ∈ k.columns, c ∈ l.columns

instance (k l : ConstraintRow) : Decidable (k.Overlaps l) := inferInstanceAs (Decidable (_ ∧ _))

/-- The same constraints at other places, foreign keys that overlap in the same order. -/
structure Rearrangement (ks ks' : List ConstraintRow) where
  place : Fin ks.length ≃ Fin ks'.length
  moved : ∀ i, ks'[place i] = ks[i]
  kept : ∀ i j, i < j → ks[i].Overlaps ks[j] → place i < place j

namespace Rearrangement

variable {ks ks' : List ConstraintRow}

theorem original (h : Rearrangement ks ks') (i : Fin ks'.length) :
    ks[h.place.symm i] = ks'[i] := by
  have hmoved := h.moved (h.place.symm i)
  simp only [Equiv.apply_symm_apply] at hmoved
  exact hmoved.symm

/-- The constraints of one kind are the same ones in the same order, if any two of them overlap. -/
theorem filter_eq (h : Rearrangement ks ks') {p : ConstraintRow → Bool}
    (hp : ∀ k l, p k = true → p l = true → k.Overlaps l) : ks'.filter p = ks.filter p := by
  have hfilter : ∀ l : List ConstraintRow,
      l.filter p = ((List.finRange l.length).filter fun i => p l[i]).map l.get := by
    intro l
    conv_lhs => rw [← List.map_get_finRange l]
    exact List.filter_map
  have hsorted : (((List.finRange ks.length).filter fun i => p ks[i]).map h.place).Pairwise
      (· < ·) := by
    rw [List.pairwise_map]
    refine ((List.pairwise_lt_finRange _).filter _).imp_of_mem fun hi hj hij => ?_
    exact h.kept _ _ hij (hp _ _ (List.mem_filter.mp hi).2 (List.mem_filter.mp hj).2)
  -- The places of these constraints ascend on both sides, so it is enough that they are the same.
  have hplaces : (List.finRange ks'.length).filter (fun i => p ks'[i]) =
      ((List.finRange ks.length).filter fun i => p ks[i]).map h.place := by
    refine List.Pairwise.eq_of_mem_iff ((List.pairwise_lt_finRange _).filter _) hsorted fun i => ?_
    rw [List.mem_filter, List.mem_map]
    constructor
    · rintro ⟨-, hi⟩
      rw [← h.original] at hi
      exact ⟨h.place.symm i, List.mem_filter.mpr ⟨List.mem_finRange _, hi⟩,
        h.place.apply_symm_apply i⟩
    · rintro ⟨j, hj, rfl⟩
      rw [h.moved]
      exact ⟨List.mem_finRange _, (List.mem_filter.mp hj).2⟩
  rw [hfilter ks', hfilter ks, hplaces, List.map_map]
  exact List.map_congr_left fun i _ => h.moved i

theorem mem_iff (h : Rearrangement ks ks') {k : ConstraintRow} : k ∈ ks' ↔ k ∈ ks := by
  rw [List.mem_iff_get, List.mem_iff_get]
  constructor
  · rintro ⟨i, rfl⟩
    exact ⟨h.place.symm i, h.original i⟩
  · rintro ⟨i, rfl⟩
    exact ⟨h.place i, h.moved i⟩

end Rearrangement

end ConstraintRow

/-- Positions that are all different leave one order for the rows. -/
theorem ColumnRow.inOrder_perm_eq {rows rows' : List ColumnRow} (h : rows.Perm rows')
    (hpositions : (rows.map (·.ordinalPosition)).Nodup) : inOrder rows' = inOrder rows := by
  have hperm : (inOrder rows').Perm (inOrder rows) :=
    (inOrder_perm rows').trans (h.symm.trans (inOrder_perm rows).symm)
  refine hperm.eq_of_pairwise ?_ (inOrder_stablySorted rows').ascending
    (inOrder_stablySorted rows).ascending
  intro a b ha hb hab hba
  have ha' : a ∈ rows := h.mem_iff.mpr ((inOrder_perm rows').mem_iff.mp ha)
  exact List.inj_on_of_nodup_map hpositions ha' ((inOrder_perm rows).mem_iff.mp hb)
    (Int.le_antisymm hab hba)

namespace Table

open ConstraintRow

section

variable {ks ks' : List ConstraintRow} {name : String}

/-- Only the keys with the column count. -/
theorem hits_filter (keys : List ConstraintRow) :
    hits name (keys.filter fun k => name ∈ k.columns) = hits name keys := by
  rw [hits_eq, hits_eq]
  induction keys with
  | nil => rfl
  | cons k keys ih =>
    by_cases hk : name ∈ k.columns
    · rw [List.filter_cons_of_pos (by simpa using hk), List.flatMap_cons, List.flatMap_cons, ih]
    · have hnone : k.columns.idxsOf name = [] := by
        rw [List.idxsOf, List.findIdxs_eq_nil_iff]
        intro c hc
        rw [beq_eq_false_iff_ne]
        rintro rfl
        exact hk hc
      rw [List.filter_cons_of_neg (by simpa using hk), List.flatMap_cons, hnone, ih]
      rfl

theorem hits_rearranged (h : Rearrangement ks ks') :
    hits name (ks'.filter isForeignKey) = hits name (ks.filter isForeignKey) := by
  have hkeys : ks'.filter (fun k => name ∈ k.columns && isForeignKey k) =
      ks.filter (fun k => name ∈ k.columns && isForeignKey k) := by
    refine h.filter_eq fun k l hk hl => ?_
    simp only [isForeignKey, Bool.and_eq_true, decide_eq_true_eq] at hk hl
    exact ⟨hk.2, hl.2, name, hk.1, hl.1⟩
  rw [← hits_filter, List.filter_filter, hkeys, ← List.filter_filter, hits_filter]

theorem isPrimary_rearranged (h : Rearrangement ks ks') :
    isPrimary ks' name = isPrimary ks name := by
  rw [Bool.eq_iff_iff, isPrimary_iff, isPrimary_iff]
  simp only [h.mem_iff]

theorem column_rearranged (h : Rearrangement ks ks') (schemaName : String) :
    column schemaName ks' = column schemaName ks := by
  funext row
  rw [column, column, isPrimary_rearranged h, hits_rearranged h]

/-- Other constraints may be reported, but only where some are. -/
theorem mismatch?_rearranged (h : Rearrangement ks ks') (rows : List ColumnRow) :
    mismatch? rows ks' = none ↔ mismatch? rows ks = none := by
  rw [mismatch?_eq_none_iff, mismatch?_eq_none_iff]
  simp only [h.mem_iff]

end

/-- A table does not depend on the order of the rows that describe it, as long as columns have
positions of their own and foreign keys that overlap keep their order. -/
theorem ofRows_rearranged (ref : RelationRef) {rows rows' : List ColumnRow}
    {ks ks' : List ConstraintRow} (comment : Option String) (hrows : rows.Perm rows')
    (hpositions : (rows.map (·.ordinalPosition)).Nodup) (hks : Rearrangement ks ks') :
    (∃ t, ofRows ref rows ks comment = .ok t ∧ ofRows ref rows' ks' comment = .ok t) ∨
      ∃ m m', ofRows ref rows ks comment = .error m ∧ ofRows ref rows' ks' comment = .error m' := by
  have horder := ColumnRow.inOrder_perm_eq hrows hpositions
  cases ht : ofRows ref rows ks comment with
  | error m =>
    have hm := ofRows_eq_error_iff.mp ht
    have hsome : mismatch? (ColumnRow.inOrder rows') ks' ≠ none := by
      rw [horder, ne_eq, mismatch?_rearranged hks, hm]
      exact Option.some_ne_none m
    obtain ⟨m', hm'⟩ := Option.ne_none_iff_exists'.mp hsome
    exact .inr ⟨m, m', rfl, ofRows_eq_error_iff.mpr hm'⟩
  | ok t =>
    have hnone := (mismatch?_rearranged hks _).mpr (of_ofRows_ok ht).1
    refine .inl ⟨t, rfl, ?_⟩
    rw [← ht, ofRows, ofRows, horder, column_rearranged hks, hnone, (of_ofRows_ok ht).1]

/-- The primary key comes last here instead of first. -/
def rotatedKeys : List ConstraintRow := overlappingKeys.rotate 1

def rotated : Rearrangement overlappingKeys rotatedKeys where
  place := (finRotate 3).symm
  moved := by decide
  kept := by decide

theorem overlappingKeys_rotated :
    ∃ t, ofRows ⟨"s", "t", .table⟩ overlappingRows overlappingKeys none = .ok t ∧
      ofRows ⟨"s", "t", .table⟩ overlappingRows.reverse rotatedKeys none = .ok t := by
  rcases ofRows_rearranged ⟨"s", "t", .table⟩ none (List.reverse_perm overlappingRows).symm
    (by decide) rotated with h | ⟨m, -, hm, -⟩
  · exact h
  · have horder : ColumnRow.inOrder overlappingRows = overlappingRows :=
      List.mergeSort_of_pairwise (by decide)
    have hnone : mismatch? overlappingRows overlappingKeys = none := by decide
    rw [ofRows_eq_error_iff, horder, hnone] at hm
    cases hm

end Table
end SchemaLineage
