import SchemaLineage.Catalog.Row
import SchemaLineage.Sql.Language
import SchemaLineage.Text.Quoted
/-
What a database's catalog can be asked, and how it may fail to answer.
-/

namespace SchemaLineage

inductive CatalogFault where
  /-- The database cannot be queried. -/
  | unavailable (message : String)
  /-- A row does not have the shape of its kind. -/
  | malformedRow (faults : List Fault)
  /-- A description lacks something that it must have. -/
  | missingKey (name : String)
  /-- No answer comes. -/
  | silent
  deriving DecidableEq, Repr

abbrev Reply := Except CatalogFault

/-- The questions about one schema, and those about one relation. -/
structure Catalog where
  /-- The language in which definitions are written. -/
  dialect : Sql.Language
  relations : String → Reply (List RelationRef)
  types : String → Reply (List TypeRow)
  columns : RelationRef → Reply (List ColumnRow)
  constraints : RelationRef → Reply (List ConstraintRow)
  comment : RelationRef → Reply (Option String)
  definition : RelationRef → Reply (Option String)

namespace Reply

variable {α : Type}

def isSilent : Reply α → Bool
  | .error .silent => true
  | _ => false

/-- The answers to questions that are asked at the same time.  All of them are waited for; then the
first one that failed counts. -/
def together (replies : List (Reply α)) : Reply (List α) :=
  if replies.any isSilent then .error .silent else replies.mapM id

theorem together_ok_iff (replies : List (Reply α)) (as : List α) :
    together replies = .ok as ↔ replies = as.map .ok := by
  have hm : ∀ (rs : List (Reply α)) (bs : List α),
      rs.mapM id = Except.ok bs ↔ rs = bs.map .ok := by
    intro rs
    induction rs with
    | nil => intro bs; cases bs <;> simp [pure, Except.pure]
    | cons r rs ih =>
      intro bs
      rw [List.mapM_cons]
      cases r with
      | error e => cases bs <;> simp [bind, Except.bind]
      | ok a =>
        cases hx : rs.mapM id with
        | error e =>
          cases bs with
          | nil => simp [bind, Except.bind]
          | cons b bs =>
            have : rs ≠ bs.map .ok := fun h => by simp [(ih bs).mpr h] at hx
            simp [bind, Except.bind, this]
        | ok cs =>
          have hc := (ih cs).mp hx
          cases bs with
          | nil => simp [bind, Except.bind, pure, Except.pure]
          | cons b bs =>
            have inj : rs = bs.map .ok ↔ cs = bs := by
              constructor
              · intro h
                have := (ih bs).mpr h
                rw [hx] at this
                exact Except.ok.inj this
              · rintro rfl; exact hc
            simp [bind, Except.bind, pure, Except.pure, inj]
  unfold together
  split
  · rename_i h
    constructor
    · intro h'; cases h'
    · rintro rfl
      simp [isSilent] at h
  · exact hm replies as

end Reply
end SchemaLineage
