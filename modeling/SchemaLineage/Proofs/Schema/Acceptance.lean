import Mathlib.Data.List.Forall2
import SchemaLineage.Proofs.Schema.Described
import SchemaLineage.Schema.Rows
/-
Which rows make a table, and what is reported of those that do not.

Rows contradict each other when two of them share a name or when a constraint names a column that
none of them has.  There can be many such places at once.  `Contradiction` says which one is
reported, and `Table.mismatch?_eq_some_iff` that this is the one that is found: the scan for names
and the scan for constraints each stop at the first bad element, so what they report is a cut of the
list with nothing bad before it.

Where nothing is reported, each row becomes one column (`Table.ofRows_accepts`).
-/

namespace SchemaLineage

/-- The contradiction to report between rows in ordinal order and the constraints over them.  A name
that is there twice comes before everything else. -/
inductive Contradiction (rows : List ColumnRow) (constraints : List ConstraintRow) : Mismatch → Prop
  | repeated {before after : List ColumnRow} {row : ColumnRow}
      (hrows : rows = before ++ row :: after) (hnew : (before.map (·.name)).Nodup)
      (hseen : row.name ∈ before.map (·.name)) :
      Contradiction rows constraints (.repeatedColumn row.name)
  | unknown {before after : List ConstraintRow} {k : ConstraintRow}
      (hnames : (rows.map (·.name)).Nodup) (hconstraints : constraints = before ++ k :: after)
      (hknown : ∀ b ∈ before, b.columns ⊆ rows.map (·.name))
      (hunknown : ¬ k.columns ⊆ rows.map (·.name)) :
      Contradiction rows constraints
        (.unknownColumns k.label (k.columns.filter fun c => c ∉ rows.map (·.name)))

/-- What a column of a table has from its row and from the constraints over it. -/
structure ColumnRow.Makes (constraints : List ConstraintRow) (row : ColumnRow) (c : Column) :
    Prop where
  describes : row.Describes c
  dataType : c.dataType = TypeName.normalize row.dataType
  nullable : c.nullable = true ↔ row.isNotNull = false
  isPrimary : c.isPrimary = true ↔
    ∃ k ∈ constraints, k.kind = .primaryKey ∧ row.name ∈ k.columns

namespace ConstraintRow

variable {k : ConstraintRow} {known : List String}

theorem unknownColumns_eq : k.unknownColumns known = k.columns.filter fun c => c ∉ known := by
  simp only [unknownColumns, List.contains_eq_mem, decide_not]

theorem unknownColumns_eq_nil_iff : k.unknownColumns known = [] ↔ k.columns ⊆ known := by
  rw [unknownColumns_eq, List.filter_eq_nil_iff]
  simp only [decide_eq_true_eq, Decidable.not_not]
  rfl

end ConstraintRow

namespace Table

/-! ## Repeated names -/

section

variable {seen names : List String} {n : String}

theorem firstRepeated_cons_of_mem {ns : List String} (h : n ∈ seen) :
    firstRepeated seen (n :: ns) = some n := by
  rw [firstRepeated, if_pos h]

theorem firstRepeated_cons_of_not_mem {ns : List String} (h : n ∉ seen) :
    firstRepeated seen (n :: ns) = firstRepeated (n :: seen) ns := by
  rw [firstRepeated, if_neg h]

theorem firstRepeated_eq_none_iff :
    firstRepeated seen names = none ↔ names.Nodup ∧ ∀ n ∈ names, n ∉ seen := by
  induction names generalizing seen with
  | nil => simp [firstRepeated]
  | cons n ns ih =>
    by_cases hn : n ∈ seen
    · rw [firstRepeated_cons_of_mem hn]
      constructor
      · intro h
        cases h
      · rintro ⟨-, hfresh⟩
        exact absurd hn (hfresh n List.mem_cons_self)
    · rw [firstRepeated_cons_of_not_mem hn, ih, List.nodup_cons]
      constructor
      · rintro ⟨hnodup, hfresh⟩
        refine ⟨⟨fun hmem => hfresh n hmem List.mem_cons_self, hnodup⟩, fun m hm => ?_⟩
        rcases List.mem_cons.mp hm with rfl | hm
        · exact hn
        · exact fun hseen => hfresh m hm (List.mem_cons_of_mem n hseen)
      · rintro ⟨⟨hout, hnodup⟩, hfresh⟩
        refine ⟨hnodup, fun m hm hseen => ?_⟩
        rcases List.mem_cons.mp hseen with rfl | hseen
        · exact hout hm
        · exact hfresh m (List.mem_cons_of_mem n hm) hseen

/-- Names that are all new are passed over. -/
theorem firstRepeated_append {before rest : List String} (hnodup : before.Nodup)
    (hfresh : ∀ m ∈ before, m ∉ seen) :
    firstRepeated seen (before ++ rest) = firstRepeated (before.reverse ++ seen) rest := by
  induction before generalizing seen with
  | nil => rfl
  | cons m before ih =>
    obtain ⟨hout, hnodup⟩ := List.nodup_cons.mp hnodup
    have hfresh' : ∀ p ∈ before, p ∉ m :: seen := by
      intro p hp hseen
      rcases List.mem_cons.mp hseen with rfl | hseen
      · exact hout hp
      · exact hfresh p (List.mem_cons_of_mem m hp) hseen
    rw [List.cons_append, firstRepeated_cons_of_not_mem (hfresh m List.mem_cons_self),
      ih hnodup hfresh', List.reverse_cons, List.append_assoc]
    rfl

/-- The name that is reported stands among those before it, which are all different. -/
theorem exists_of_firstRepeated (h : firstRepeated seen names = some n) :
    ∃ before after, names = before ++ n :: after ∧ before.Nodup ∧ (∀ m ∈ before, m ∉ seen) ∧
      (n ∈ seen ∨ n ∈ before) := by
  induction names generalizing seen with
  | nil => cases h
  | cons m ns ih =>
    by_cases hm : m ∈ seen
    · rw [firstRepeated_cons_of_mem hm] at h
      cases h
      exact ⟨[], ns, rfl, List.nodup_nil, by simp, .inl hm⟩
    · rw [firstRepeated_cons_of_not_mem hm] at h
      obtain ⟨before, after, rfl, hnodup, hfresh, hn⟩ := ih h
      refine ⟨m :: before, after, rfl, ?_, fun p hp => ?_, ?_⟩
      · exact List.nodup_cons.mpr ⟨fun hmem => hfresh m hmem List.mem_cons_self, hnodup⟩
      · rcases List.mem_cons.mp hp with rfl | hp
        · exact hm
        · exact fun hseen => hfresh p hp (List.mem_cons_of_mem m hseen)
      · rcases hn with hn | hn
        · rcases List.mem_cons.mp hn with rfl | hn
          · exact .inr List.mem_cons_self
          · exact .inl hn
        · exact .inr (List.mem_cons_of_mem m hn)

theorem firstRepeated_nil_eq_some_iff :
    firstRepeated [] names = some n ↔
      ∃ before after, names = before ++ n :: after ∧ before.Nodup ∧ n ∈ before := by
  constructor
  · intro h
    obtain ⟨before, after, hnames, hnodup, -, hn⟩ := exists_of_firstRepeated h
    exact ⟨before, after, hnames, hnodup, hn.resolve_left List.not_mem_nil⟩
  · rintro ⟨before, after, rfl, hnodup, hn⟩
    rw [firstRepeated_append hnodup fun m _ => List.not_mem_nil, List.append_nil]
    exact firstRepeated_cons_of_mem (List.mem_reverse.mpr hn)

end

/-! ## Unknown columns -/

section

variable {known : List String} {ks : List ConstraintRow}

theorem firstUnknown_cons_of_subset {k : ConstraintRow} (h : k.columns ⊆ known) :
    firstUnknown known (k :: ks) = firstUnknown known ks := by
  rw [firstUnknown, ConstraintRow.unknownColumns_eq_nil_iff.mpr h]

theorem firstUnknown_cons_of_not_subset {k : ConstraintRow} (h : ¬ k.columns ⊆ known) :
    firstUnknown known (k :: ks) = some (.unknownColumns k.label (k.unknownColumns known)) := by
  rw [firstUnknown]
  split
  · rename_i hnil
    exact absurd (ConstraintRow.unknownColumns_eq_nil_iff.mp hnil) h
  · rfl

theorem firstUnknown_eq_none_iff :
    firstUnknown known ks = none ↔ ∀ k ∈ ks, k.columns ⊆ known := by
  induction ks with
  | nil => simp [firstUnknown]
  | cons k ks ih =>
    by_cases hk : k.columns ⊆ known
    · rw [firstUnknown_cons_of_subset hk, ih, List.forall_mem_cons]
      exact (and_iff_right hk).symm
    · rw [firstUnknown_cons_of_not_subset hk]
      constructor
      · intro h
        cases h
      · intro h
        exact absurd (h k List.mem_cons_self) hk

theorem firstUnknown_eq_some_iff {m : Mismatch} :
    firstUnknown known ks = some m ↔
      ∃ before k after, ks = before ++ k :: after ∧ (∀ b ∈ before, b.columns ⊆ known) ∧
        ¬ k.columns ⊆ known ∧ m = .unknownColumns k.label (k.unknownColumns known) := by
  constructor
  · intro h
    induction ks with
    | nil => cases h
    | cons k ks ih =>
      by_cases hk : k.columns ⊆ known
      · rw [firstUnknown_cons_of_subset hk] at h
        obtain ⟨before, k', after, rfl, hbefore, hk', rfl⟩ := ih h
        exact ⟨k :: before, k', after, rfl, List.forall_mem_cons.mpr ⟨hk, hbefore⟩, hk', rfl⟩
      · rw [firstUnknown_cons_of_not_subset hk] at h
        cases h
        exact ⟨[], k, ks, rfl, by simp, hk, rfl⟩
  · rintro ⟨before, k, after, rfl, hbefore, hk, rfl⟩
    induction before with
    | nil => exact firstUnknown_cons_of_not_subset hk
    | cons b before ih =>
      obtain ⟨hb, hbefore⟩ := List.forall_mem_cons.mp hbefore
      rw [List.cons_append, firstUnknown_cons_of_subset hb]
      exact ih hbefore

end

/-! ## Rows -/

section

variable {rows : List ColumnRow} {constraints : List ConstraintRow}

theorem mismatch?_of_repeated {n : String} (h : firstRepeated [] (rows.map (·.name)) = some n) :
    mismatch? rows constraints = some (.repeatedColumn n) := by
  rw [mismatch?, h]

theorem mismatch?_of_nodup (h : (rows.map (·.name)).Nodup) :
    mismatch? rows constraints = firstUnknown (rows.map (·.name)) constraints := by
  have hnone : firstRepeated [] (rows.map (·.name)) = none :=
    firstRepeated_eq_none_iff.mpr ⟨h, fun n _ => List.not_mem_nil⟩
  rw [mismatch?, hnone]

/-- A name that rows share, as the scan for names reports it. -/
theorem exists_firstRepeated (h : ¬ (rows.map (·.name)).Nodup) :
    ∃ n, firstRepeated [] (rows.map (·.name)) = some n := by
  cases hn : firstRepeated [] (rows.map (·.name)) with
  | some n => exact ⟨n, rfl⟩
  | none => exact absurd (firstRepeated_eq_none_iff.mp hn).1 h

theorem mismatch?_eq_none_iff :
    mismatch? rows constraints = none ↔
      (rows.map (·.name)).Nodup ∧ ∀ k ∈ constraints, k.columns ⊆ rows.map (·.name) := by
  by_cases hnodup : (rows.map (·.name)).Nodup
  · rw [mismatch?_of_nodup hnodup, firstUnknown_eq_none_iff]
    exact (and_iff_right hnodup).symm
  · obtain ⟨n, hn⟩ := exists_firstRepeated hnodup
    rw [mismatch?_of_repeated hn]
    constructor
    · intro h
      cases h
    · rintro ⟨h, -⟩
      exact absurd h hnodup

theorem mismatch?_eq_some_iff {m : Mismatch} :
    mismatch? rows constraints = some m ↔ Contradiction rows constraints m := by
  constructor
  · intro h
    by_cases hnodup : (rows.map (·.name)).Nodup
    · rw [mismatch?_of_nodup hnodup] at h
      obtain ⟨before, k, after, hconstraints, hbefore, hk, rfl⟩ := firstUnknown_eq_some_iff.mp h
      rw [ConstraintRow.unknownColumns_eq]
      exact .unknown hnodup hconstraints hbefore hk
    · obtain ⟨n, hn⟩ := exists_firstRepeated hnodup
      rw [mismatch?_of_repeated hn] at h
      cases h
      obtain ⟨_, _, hnames, hnew, hseen⟩ := firstRepeated_nil_eq_some_iff.mp hn
      obtain ⟨before, rest, rfl, rfl, hrest⟩ := List.map_eq_append_iff.mp hnames
      obtain ⟨row, after, rfl, rfl, -⟩ := List.map_eq_cons_iff.mp hrest
      exact .repeated rfl hnew hseen
  · intro h
    cases h with
    | @repeated before after row hrows hnew hseen =>
      have hnames : rows.map (·.name) =
          before.map (·.name) ++ row.name :: after.map (·.name) := by
        rw [hrows, List.map_append, List.map_cons]
      exact mismatch?_of_repeated
        (firstRepeated_nil_eq_some_iff.mpr ⟨_, _, hnames, hnew, hseen⟩)
    | unknown hnames hconstraints hknown hunknown =>
      rw [mismatch?_of_nodup hnames, ← ConstraintRow.unknownColumns_eq]
      exact firstUnknown_eq_some_iff.mpr ⟨_, _, _, hconstraints, hknown, hunknown, rfl⟩

theorem isPrimary_iff {name : String} :
    isPrimary constraints name = true ↔
      ∃ k ∈ constraints, k.kind = .primaryKey ∧ name ∈ k.columns := by
  simp only [isPrimary, List.any_eq_true, Bool.and_eq_true, decide_eq_true_eq,
    List.contains_iff_mem]

theorem makes_column (schemaName : String) (row : ColumnRow) :
    row.Makes constraints (column schemaName constraints row) where
  describes := ⟨rfl, rfl, rfl, rfl⟩
  dataType := rfl
  nullable := by rw [column, Bool.not_eq_true']
  isPrimary := isPrimary_iff

end

section

variable {ref : RelationRef} {rows : List ColumnRow} {constraints : List ConstraintRow}
  {comment : Option String}

theorem ofRows_eq_error_iff {m : Mismatch} :
    ofRows ref rows constraints comment = .error m ↔
      mismatch? (ColumnRow.inOrder rows) constraints = some m := by
  simp only [ofRows]
  split
  · rename_i m' hm
    rw [hm, Except.error.injEq, Option.some.injEq]
  · rename_i hnone
    rw [hnone]
    simp

/-- Rows that are accepted contradict each other nowhere, and become the columns one by one. -/
theorem of_ofRows_ok {t : Table} (h : ofRows ref rows constraints comment = .ok t) :
    mismatch? (ColumnRow.inOrder rows) constraints = none ∧
      t.columns = (ColumnRow.inOrder rows).map (column ref.schemaName constraints) := by
  simp only [ofRows] at h
  split at h
  · cases h
  · rename_i hnone
    cases h
    exact ⟨hnone, rfl⟩

/-- Order plays no part in whether rows are refused, only in what is reported. -/
theorem exists_ofRows_eq_error_iff :
    (∃ m, ofRows ref rows constraints comment = .error m) ↔
      ¬ (rows.map (·.name)).Nodup ∨
        ∃ k ∈ constraints, ∃ c ∈ k.columns, ∀ row ∈ rows, row.name ≠ c := by
  have hperm := (ColumnRow.inOrder_perm rows).map (·.name)
  have hsome : (∃ m, ofRows ref rows constraints comment = .error m) ↔
      mismatch? (ColumnRow.inOrder rows) constraints ≠ none := by
    simp only [ofRows_eq_error_iff, Option.ne_none_iff_exists']
  rw [hsome, ne_eq, mismatch?_eq_none_iff, hperm.nodup_iff, not_and_or]
  refine or_congr_right ?_
  simp only [List.subset_def, hperm.mem_iff, List.mem_map, not_forall, not_exists, not_and,
    exists_prop]

theorem makes_columns {t : Table} (h : ofRows ref rows constraints comment = .ok t) :
    List.Forall₂ (ColumnRow.Makes constraints) (ColumnRow.inOrder rows) t.columns := by
  rw [(of_ofRows_ok h).2, List.forall₂_map_right_iff, List.forall₂_same]
  exact fun row _ => makes_column ref.schemaName row

theorem nodup_names {t : Table} (h : ofRows ref rows constraints comment = .ok t) :
    (t.columns.map (·.name)).Nodup := by
  obtain ⟨hnone, hcolumns⟩ := of_ofRows_ok h
  have hnames : t.columns.map (·.name) = (ColumnRow.inOrder rows).map (·.name) := by
    rw [hcolumns, List.map_map]
    rfl
  rw [hnames]
  exact (mismatch?_eq_none_iff.mp hnone).1

end

/-- Rows are refused exactly when two of them share a name or a constraint names a column that none
of them has, and then one contradiction is reported.  Otherwise each row becomes a column, in
ordinal order, and no two columns share a name. -/
theorem ofRows_accepts (ref : RelationRef) (rows : List ColumnRow)
    (constraints : List ConstraintRow) (comment : Option String) :
    ColumnRow.StablySorted rows (ColumnRow.inOrder rows) ∧
      ((∃ m, ofRows ref rows constraints comment = .error m) ↔
        ¬ (rows.map (·.name)).Nodup ∨
          ∃ k ∈ constraints, ∃ c ∈ k.columns, ∀ row ∈ rows, row.name ≠ c) ∧
      (∀ m, ofRows ref rows constraints comment = .error m ↔
        Contradiction (ColumnRow.inOrder rows) constraints m) ∧
      ∀ t, ofRows ref rows constraints comment = .ok t →
        List.Forall₂ (ColumnRow.Makes constraints) (ColumnRow.inOrder rows) t.columns ∧
          (t.columns.map (·.name)).Nodup := by
  refine ⟨ColumnRow.inOrder_stablySorted rows, exists_ofRows_eq_error_iff, fun m => ?_,
    fun t ht => ?_⟩
  · rw [ofRows_eq_error_iff, mismatch?_eq_some_iff]
  · exact ⟨makes_columns ht, nodup_names ht⟩

end Table
end SchemaLineage
