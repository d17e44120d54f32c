import SchemaLineage.Lineage.Trace
/-
Computations that ask for relations.

`View.ofSource` is written for any way of finding the relations that a view reads.  Here it is run
once on questions instead of answers: what comes out is a tree with a question at each inner node,
`Asking View`, and `ofSource_eq_run` says that finding the relations by any means is the same as
answering the questions of that tree.  Whatever holds of a resolver because it can only ask one
question after another is then an induction over the tree.
-/

namespace SchemaLineage

/-- A result, or a question whose answer decides how to go on. -/
inductive Asking (α : Type) where
  | done (a : α)
  | ask (ref : RelationRef) (next : Option TableOrView → Asking α)

namespace Asking

variable {α β : Type}

protected def bind : Asking α → (α → Asking β) → Asking β
  | done a, k => k a
  | ask ref next, k => ask ref fun r => (next r).bind k

instance : Monad Asking where
  pure := done
  bind := Asking.bind

theorem done_bind (a : α) (k : α → Asking β) : done a >>= k = k a := rfl

theorem ask_bind (ref : RelationRef) (next : Option TableOrView → Asking α) (k : α → Asking β) :
    ask ref next >>= k = ask ref fun r => next r >>= k := rfl

theorem bind_done (q : Asking α) : q >>= done = q := by
  induction q with
  | done a => rfl
  | ask ref next ih =>
    rw [ask_bind]
    exact congrArg (ask ref) (funext ih)

theorem bind_bind {γ : Type} (q : Asking α) (k : α → Asking β) (l : β → Asking γ) :
    q >>= k >>= l = q >>= fun a => k a >>= l := by
  induction q with
  | done a => rfl
  | ask ref next ih =>
    simp only [ask_bind]
    exact congrArg (ask ref) (funext ih)

instance : LawfulMonad Asking :=
  LawfulMonad.mk' Asking bind_done done_bind bind_bind

def relation (ref : RelationRef) : Asking (Option TableOrView) := ask ref done

section Run

variable {m : Type → Type} [Monad m] (find : RelationRef → m (Option TableOrView))

def run : Asking α → m α
  | done a => pure a
  | ask ref next => do
    let r ← find ref
    (next r).run

theorem run_pure (a : α) : (pure a : Asking α).run find = pure a := rfl

variable [LawfulMonad m]

theorem run_relation (ref : RelationRef) : (relation ref).run find = find ref := by
  simp only [relation, run, bind_pure]

theorem run_bind (q : Asking α) (k : α → Asking β) :
    (q >>= k).run find = q.run find >>= fun a => (k a).run find := by
  induction q with
  | done a => rw [done_bind, run, pure_bind]
  | ask ref next ih =>
    rw [ask_bind, run, run, bind_assoc]
    exact bind_congr ih

theorem run_mapM (f : β → Asking α) (bs : List β) :
    (bs.mapM f).run find = bs.mapM fun b => (f b).run find := by
  induction bs with
  | nil => rfl
  | cons b bs ih => simp only [List.mapM_cons, run_bind, run_pure, ih]

end Run

section Judgement

/-- All questions satisfy `P`, whatever the answers are, and all results satisfy `Q`. -/
def Only (P : RelationRef → Prop) (Q : α → Prop) : Asking α → Prop
  | done a => Q a
  | ask ref next => P ref ∧ ∀ r, (next r).Only P Q

variable {P : RelationRef → Prop}

theorem Only.imp {P' : RelationRef → Prop} {Q Q' : α → Prop} {q : Asking α} (h : q.Only P Q)
    (hP : ∀ ref, P ref → P' ref) (hQ : ∀ a, Q a → Q' a) : q.Only P' Q' := by
  induction q with
  | done a => exact hQ a h
  | ask ref next ih => exact ⟨hP ref h.1, fun r => ih r (h.2 r)⟩

theorem Only.bind {Q : α → Prop} {Q' : β → Prop} {q : Asking α} {k : α → Asking β}
    (hq : q.Only P Q) (hk : ∀ a, Q a → (k a).Only P Q') : (q >>= k).Only P Q' := by
  induction q with
  | done a => exact hk a hq
  | ask ref next ih => exact ⟨hq.1, fun r => ih r (hq.2 r)⟩

theorem Only.mapM {Q : α → Prop} {f : β → Asking α} {bs : List β}
    (h : ∀ b ∈ bs, (f b).Only P Q) : (bs.mapM f).Only P fun as => ∀ a ∈ as, Q a := by
  induction bs with
  | nil => exact fun a ha => absurd ha List.not_mem_nil
  | cons b bs ih =>
    rw [List.mapM_cons]
    refine (h b List.mem_cons_self).bind fun a ha => ?_
    refine (ih fun c hc => h c (List.mem_cons_of_mem b hc)).bind fun as has => ?_
    intro c hc
    rcases List.mem_cons.mp hc with rfl | hc
    · exact ha
    · exact has c hc

end Judgement
end Asking

/-- The items of the view's query, as far as it was analyzed. -/
def ViewSource.projections (s : ViewSource) : List Projection :=
  (s.analysis.map (·.projections)).getD []

def ViewSource.read (s : ViewSource) : List RelationRef :=
  s.projections.filterMap Projection.source

theorem Output.pair_nil (rows : List ColumnRow) :
    Output.pair rows [] = rows.map fun row => (row, ⟨row.name, none⟩) := by
  cases rows <;> rfl

namespace View

/-- The questions that have to be answered to make a view. -/
def questions (s : ViewSource) : Asking View := ofSource Asking.relation s

section

variable {m : Type → Type} [Monad m] [LawfulMonad m] (find : RelationRef → m (Option TableOrView))

theorem outputsOf_eq_run (p : Projection) :
    outputsOf find p = (outputsOf Asking.relation p).run find := by
  cases p with
  | direct source column name => rfl
  | untraced name => rfl
  | wildcard source =>
    cases source with
    | none => rfl
    | some source => simp only [outputsOf, Asking.run_bind, Asking.run_relation, Asking.run_pure]

theorem mapM_outputsOf_eq_run (ps : List Projection) :
    ps.mapM (outputsOf find) = (ps.mapM (outputsOf Asking.relation)).run find := by
  rw [Asking.run_mapM]
  exact congrArg (ps.mapM ·) (funext (outputsOf_eq_run find))

theorem columnOf_eq_run (row : ColumnRow) (output : Output) :
    columnOf find row output = (columnOf Asking.relation row output).run find := by
  obtain ⟨name, origin⟩ := output
  cases origin with
  | none => rfl
  | some o =>
    simp only [columnOf, Asking.run_bind, Asking.run_relation]
    refine bind_congr fun r => ?_
    cases r.bind fun r => r.toRelation.column? o.2 <;> rfl

/-- A view that was not analyzed is made like one whose query has no items. -/
theorem ofSource_eq (s : ViewSource) : ofSource find s = (do
    let items ← s.projections.mapM (outputsOf find)
    return ofColumns s
      (← (Output.pair s.orderedRows items).mapM fun p => columnOf find p.1 p.2)) := by
  unfold ofSource ViewSource.projections
  cases s.analysis with
  | some a => rfl
  | none =>
    have hcolumns : ((Output.pair s.orderedRows []).mapM fun (p : ColumnRow × Output) =>
        columnOf find p.1 p.2) = pure (s.orderedRows.map Column.untraced) := by
      rw [Output.pair_nil, List.mapM_map]
      exact List.mapM_pure
    show (pure (untraced s) : m View) = (do
      let items ← pure []
      return ofColumns s
        (← (Output.pair s.orderedRows items).mapM fun p => columnOf find p.1 p.2))
    rw [pure_bind, hcolumns, pure_bind]
    rfl

theorem ofSource_eq_run (s : ViewSource) : ofSource find s = (questions s).run find := by
  rw [questions, ofSource_eq, ofSource_eq]
  rw [Asking.run_bind, ← mapM_outputsOf_eq_run]
  simp only [Asking.run_bind, Asking.run_mapM, Asking.run_pure, columnOf_eq_run find]

end

/-- Positions decide which output a row gets, but not which outputs there are. -/
theorem mem_of_mem_pair {rows : List ColumnRow} {items : List (Option (List Output))}
    {p : ColumnRow × Output} (hp : p ∈ Output.pair rows items) :
    p.2.origin = none ∨ ∃ outputs, some outputs ∈ items ∧ p.2 ∈ outputs := by
  have hflat : ∀ o ∈ (items.filterMap id).flatten,
      ∃ outputs, some outputs ∈ items ∧ o ∈ outputs := by
    intro o ho
    obtain ⟨outputs, hout, ho⟩ := List.mem_flatten.mp ho
    exact ⟨outputs, by simpa using hout, ho⟩
  simp only [Output.pair] at hp
  split at hp
  · exact .inr (hflat p.2 (List.of_mem_zip hp).2)
  · obtain ⟨row, -, rfl⟩ := List.mem_map.mp hp
    cases hfind : (items.filterMap id).flatten.find? fun o => o.name = row.name with
    | none => exact .inl rfl
    | some o => exact .inr (hflat o (List.mem_of_find?_eq_some hfind))

theorem outputsOf_only (p : Projection) :
    (outputsOf Asking.relation p).Only (fun ref => p.source = some ref) fun item =>
      ∀ outputs, item = some outputs → ∀ o ∈ outputs, ∀ origin, o.origin = some origin →
        p.source = some origin.1 := by
  cases p with
  | direct source column name =>
    rintro _ ⟨⟩ o ho origin horigin
    rw [List.mem_singleton.mp ho] at horigin
    cases horigin
    rfl
  | untraced name =>
    rintro _ ⟨⟩ o ho origin horigin
    rw [List.mem_singleton.mp ho] at horigin
    cases horigin
  | wildcard source =>
    cases source with
    | none => rintro _ ⟨⟩
    | some source =>
      refine ⟨rfl, fun r outputs houtputs o ho origin horigin => ?_⟩
      obtain ⟨x, -, rfl⟩ := Option.map_eq_some_iff.mp houtputs
      obtain ⟨c, -, rfl⟩ := List.mem_map.mp ho
      cases horigin
      rfl

/-- A view asks for nothing but the relations that its projections name. -/
theorem questions_only (s : ViewSource) :
    (questions s).Only (fun ref => ref ∈ s.read) fun _ => True := by
  have hread : ∀ p ∈ s.projections, ∀ ref, p.source = some ref → ref ∈ s.read :=
    fun p hp ref href => List.mem_filterMap.mpr ⟨p, hp, href⟩
  rw [questions, ofSource_eq]
  refine (Asking.Only.mapM (Q := fun item => ∀ outputs, item = some outputs → ∀ o ∈ outputs,
    ∀ origin, o.origin = some origin → origin.1 ∈ s.read)
      fun p hp => ?_).bind fun items hitems => ?_
  · exact (outputsOf_only p).imp (fun ref href => hread p hp ref href)
      fun item hitem outputs h o ho origin horigin =>
        hread p hp origin.1 (hitem outputs h o ho origin horigin)
  · refine (Asking.Only.mapM (Q := fun _ => True) fun p hp => ?_).bind fun _ _ => trivial
    obtain ⟨row, name, origin⟩ := p
    cases origin with
    | none => trivial
    | some origin =>
      refine ⟨?_, fun r => ?_⟩
      · rcases mem_of_mem_pair hp with h | ⟨outputs, hmem, ho⟩
        · cases h
        · exact hitems _ hmem outputs rfl _ ho origin rfl
      · simp only [Asking.bind]
        split <;> trivial

end View
end SchemaLineage
