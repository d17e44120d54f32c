import SchemaLineage.Proofs.Lineage.Plain
/-
What a view is made from.

Where all that the projections of views name is among their sources, a view asks only for relations
that it says to read.  So two inventories that agree but for one relation (`AgreeBut`) make the same
of every reference from which no walk along sources leads there (`plainFrom_agree`).
-/

namespace SchemaLineage

theorem Asking.Only.of_meets {ε α : Type} {P : RelationRef → Prop} {Q : α → Prop} {q : Asking α}
    {find : RelationRef → Except ε (Option TableOrView)} {ref : RelationRef}
    (h : q.Only P Q) (hmeets : q.Meets find ref) : P ref := by
  induction hmeets with
  | here ref next => exact h.1
  | later hr _ ih => exact ih (h.2 _)

namespace Inventory

variable {x : RelationRef} {i i' : Inventory}

/-- A view says that it reads a relation, be it there or not. -/
def Reads (i : Inventory) (ref other : RelationRef) : Prop :=
  ∃ s, i.view? ref = some s ∧ other ∈ s.sources

/-- The same tables and views but for one relation and the views that say to read it. -/
structure AgreeBut (x : RelationRef) (i i' : Inventory) : Prop where
  tables : ∀ ref, ref ≠ x → i.table? ref = i'.table? ref
  absent : ∀ ref, ref ≠ x → i.view? ref = none → i'.view? ref = none
  views : ∀ ref, ref ≠ x → ∀ s, i.view? ref = some s → x ∉ s.sources → i'.view? ref = some s

theorem plainFrom_agree (h : i.AgreeBut x i') (hread : ∀ s ∈ i.views, s.read ⊆ s.sources)
    {path : List RelationRef} {ref : RelationRef} {r : Option TableOrView}
    (hr : i.plainFrom path ref = .ok r) (hx : ¬ Relation.ReflTransGen i.Reads ref x) :
    i'.plainFrom path ref = .ok r := by
  have hne : ref ≠ x := by
    rintro rfl
    exact hx .refl
  cases ht : i.table? ref with
  | some t =>
    rw [plainFrom_table ht] at hr
    rw [plainFrom_table ((h.tables ref hne).symm.trans ht)]
    exact hr
  | none =>
    have ht' : i'.table? ref = none := (h.tables ref hne).symm.trans ht
    cases hs : i.view? ref with
    | none =>
      rw [plainFrom_absent ht hs] at hr
      rw [plainFrom_absent ht' (h.absent ref hne hs)]
      exact hr
    | some s =>
      have hs' : i'.view? ref = some s := by
        refine h.views ref hne s hs fun hmem => ?_
        exact hx (.single ⟨s, hs, hmem⟩)
      obtain ⟨hp, v, hrun, rfl⟩ := plainFrom_view_ok ht hs hr
      refine plainFrom_view_of_run ht' hs' hp ?_
      refine Asking.run_ok_of_meets hrun fun other hmeets r hother => ?_
      have hsource : other ∈ s.sources :=
        hread s (mem_of_view? hs).1 ((View.questions_only s).of_meets hmeets)
      exact plainFrom_agree h hread hother fun hfar => hx (.head ⟨s, hs, hsource⟩ hfar)
termination_by i.offPath path
decreasing_by
  have hmem := mem_of_view? hs
  exact hmem.2 ▸ offPath_append_lt hmem.1 (hmem.2 ▸ hp)

end Inventory
end SchemaLineage
