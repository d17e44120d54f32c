import Mathlib.Data.List.Pairwise
import SchemaLineage.Schema.Basic
/-
The rows of a relation in ordinal order, and the columns that they describe.

Tables and views take their columns from the catalog's rows in the same order.  Positions may
repeat, so the order is only determined together with that of the rows that share one
(`StablySorted`).
-/

namespace SchemaLineage

namespace ColumnRow

/-- The same rows by ordinal position, those that share one in their old order. -/
structure StablySorted (rows sorted : List ColumnRow) : Prop where
  perm : sorted.Perm rows
  ascending : sorted.Pairwise fun a b => a.ordinalPosition ≤ b.ordinalPosition
  stable : ∀ p, sorted.filter (fun r => r.ordinalPosition = p) =
    rows.filter fun r => r.ordinalPosition = p

theorem inOrder_stablySorted (rows : List ColumnRow) : StablySorted rows (inOrder rows) := by
  have htrans : ∀ a b c : ColumnRow, decide (a.ordinalPosition ≤ b.ordinalPosition) →
      decide (b.ordinalPosition ≤ c.ordinalPosition) →
      decide (a.ordinalPosition ≤ c.ordinalPosition) := by
    intro a b c hab hbc
    simp only [decide_eq_true_eq] at hab hbc ⊢
    omega
  have htotal : ∀ a b : ColumnRow, (decide (a.ordinalPosition ≤ b.ordinalPosition) ||
      decide (b.ordinalPosition ≤ a.ordinalPosition)) = true := by
    intro a b
    simp only [Bool.or_eq_true, decide_eq_true_eq]
    omega
  refine ⟨inOrder_perm rows, ?_, fun p => ?_⟩
  · exact (List.pairwise_mergeSort htrans htotal rows).imp fun h => of_decide_eq_true h
  · have hequal : (rows.filter fun r => r.ordinalPosition = p).Pairwise
        fun a b => decide (a.ordinalPosition ≤ b.ordinalPosition) := by
      refine List.pairwise_of_forall_mem_list fun a ha b hb => ?_
      have hpa := of_decide_eq_true (List.mem_filter.mp ha).2
      have hpb := of_decide_eq_true (List.mem_filter.mp hb).2
      exact decide_eq_true (Int.le_of_eq (hpa.trans hpb.symm))
    have hsub := (List.sublist_mergeSort htrans htotal hequal List.filter_sublist).filter
      fun r => decide (r.ordinalPosition = p)
    rw [List.filter_filter] at hsub
    simp only [Bool.and_self] at hsub
    exact (hsub.eq_of_length ((inOrder_perm rows).filter _).length_eq.symm).symm

end ColumnRow

/-- The column says of itself what the row says. -/
structure ColumnRow.Describes (row : ColumnRow) (c : Column) : Prop where
  name : c.name = row.name
  ordinalPosition : c.ordinalPosition = row.ordinalPosition
  defaultText : c.defaultText = row.defaultText
  remarks : c.remarks = Remarks.ofComment? row.comment

end SchemaLineage
