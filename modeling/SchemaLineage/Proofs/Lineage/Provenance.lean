import SchemaLineage.Proofs.Lineage.History
import SchemaLineage.Proofs.Schema.Described
/-
Where the columns of a view come from.

The catalog names the columns of every relation before any view is made, so it can be said of the
inventory alone which column of which relation a row copies (`Inventory.target?`).  `Shows` follows
these arrows from view to view, down to the column of a table or to a row that copies nothing.  It
makes no view, keeps nothing and goes by no order; `shows_iff` says that the views that are made
agree with it.

Wildcards are why the names have to come first: what an item of a query stands for is only known
when the columns of its relation are, and a view has the names of its rows whatever it copies
(`columnNames?_of_plainFrom`).
-/

namespace SchemaLineage

/-- What a column takes over from the one that it copies. -/
structure Traits where
  dataType : String
  nullable : Bool
  isPrimary : Bool
  reference : Option ForeignKey
  deriving DecidableEq

def Column.traits (c : Column) : Traits := ⟨c.dataType, c.nullable, c.isPrimary, c.reference⟩

/-- The traits of a row that copies nothing. -/
def ColumnRow.traits (row : ColumnRow) : Traits :=
  ⟨TypeName.normalize row.dataType, true, false, none⟩

theorem Column.traits_untraced (row : ColumnRow) : (Column.untraced row).traits = row.traits := rfl

theorem Column.traits_traced (row : ColumnRow) (c : Column) :
    (Column.traced row c).traits = c.traits := rfl

theorem ColumnRow.describes_untraced (row : ColumnRow) : row.Describes (.untraced row) :=
  ⟨rfl, rfl, rfl, rfl⟩

theorem ColumnRow.describes_traced (row : ColumnRow) (c : Column) : row.Describes (.traced row c) :=
  ⟨rfl, rfl, rfl, rfl⟩

/-! ## What the inventory says -/

namespace Inventory

variable {i : Inventory}

/-- The names of the columns of a relation: those of a table, or those that the catalog lists. -/
def columnNames? (i : Inventory) (ref : RelationRef) : Option (List String) :=
  match i.table? ref with
  | some t => some (t.columns.map (·.name))
  | none => (i.view? ref).map (·.columnNames)

/-- What an item of a query stands for.  A wildcard stands for all columns of its relation, and for
nothing that could be told when there is no such relation. -/
def splice? (i : Inventory) : Projection → Option (List Output)
  | .direct source column name => some [⟨name, some (source, column)⟩]
  | .untraced name => some [⟨name, none⟩]
  | .wildcard none => none
  | .wildcard (some source) =>
    (i.columnNames? source).map fun names => names.map fun name => ⟨name, some (source, name)⟩

/-- The output that the row at a place is paired with, as far as there is one. -/
def paired? (i : Inventory) (s : ViewSource) (k : Nat) (row : ColumnRow) : Option Output :=
  let outputs := s.projections.flatMap fun p => (i.splice? p).getD []
  if (∀ p ∈ s.projections, (i.splice? p).isSome) ∧ outputs.length = s.orderedRows.length then
    outputs[k]?
  else outputs.find? fun o => o.name = row.name

/-- The relation and the place in it of the column that a row copies: the first one there that has
the name.  Nothing when the row copies none, or when there is no such relation or column. -/
def target? (i : Inventory) (s : ViewSource) (k : Nat) (row : ColumnRow) :
    Option (RelationRef × Nat) := do
  let (source, column) ← (← i.paired? s k row).origin
  let place ← (← i.columnNames? source).idxOf? column
  return (source, place)

/-- The traits of the column at a place of a relation. -/
inductive Shows (i : Inventory) : RelationRef → Nat → Traits → Prop
  | table {ref : RelationRef} {k : Nat} {t : Table} {c : Column} (ht : i.table? ref = some t)
      (hc : t.columns[k]? = some c) : Shows i ref k c.traits
  | untraced {ref : RelationRef} {k : Nat} {s : ViewSource} {row : ColumnRow}
      (ht : i.table? ref = none) (hs : i.view? ref = some s) (hrow : s.orderedRows[k]? = some row)
      (h : i.target? s k row = none) : Shows i ref k row.traits
  | copied {ref source : RelationRef} {k place : Nat} {s : ViewSource} {row : ColumnRow}
      {traits : Traits} (ht : i.table? ref = none) (hs : i.view? ref = some s)
      (hrow : s.orderedRows[k]? = some row) (h : i.target? s k row = some (source, place))
      (horigin : Shows i source place traits) : Shows i ref k traits

theorem shows_table_iff {ref : RelationRef} {k : Nat} {t : Table} {c : Column} {traits : Traits}
    (ht : i.table? ref = some t) (hc : t.columns[k]? = some c) :
    i.Shows ref k traits ↔ traits = c.traits := by
  constructor
  · intro h
    cases h with
    | table ht' hc' =>
      rw [ht] at ht'
      cases ht'
      rw [hc] at hc'
      cases hc'
      rfl
    | untraced ht' => rw [ht] at ht'; cases ht'
    | copied ht' => rw [ht] at ht'; cases ht'
  · rintro rfl
    exact .table ht hc

theorem shows_view_iff {ref : RelationRef} {k : Nat} {s : ViewSource} {row : ColumnRow}
    {traits : Traits} (ht : i.table? ref = none) (hs : i.view? ref = some s)
    (hrow : s.orderedRows[k]? = some row) :
    i.Shows ref k traits ↔ (i.target? s k row = none ∧ traits = row.traits) ∨
      ∃ source place, i.target? s k row = some (source, place) ∧ i.Shows source place traits := by
  constructor
  · intro h
    cases h with
    | table ht' => rw [ht] at ht'; cases ht'
    | untraced _ hs' hrow' h =>
      rw [hs] at hs'
      cases hs'
      rw [hrow] at hrow'
      cases hrow'
      exact .inl ⟨h, rfl⟩
    | copied _ hs' hrow' h horigin =>
      rw [hs] at hs'
      cases hs'
      rw [hrow] at hrow'
      cases hrow'
      exact .inr ⟨_, _, h, horigin⟩
  · rintro (⟨h, rfl⟩ | ⟨source, place, h, horigin⟩)
    · exact .untraced ht hs hrow h
    · exact .copied ht hs hrow h horigin

/-! ## What a view that is made has -/

end Inventory

namespace Output

theorem pair_map_fst (rows : List ColumnRow) (items : List (Option (List Output))) :
    (pair rows items).map Prod.fst = rows := by
  simp only [pair]
  split
  · rename_i h
    simp only [Bool.and_eq_true, decide_eq_true_eq] at h
    exact List.map_fst_zip (Nat.le_of_eq h.2.symm)
  · rw [List.map_map]
    exact List.map_id rows

end Output

namespace View

variable {ε : Type} {find : RelationRef → Except ε (Option TableOrView)}

theorem columns_of_run {s : ViewSource} {v : View} (h : (questions s).run find = .ok v) :
    ∃ items, List.Forall₂ (fun p item => outputsOf find p = .ok item) s.projections items ∧
      List.Forall₂ (fun p c => columnOf find p.1 p.2 = .ok c) (Output.pair s.orderedRows items)
        v.columns := by
  rw [← ofSource_eq_run, ofSource_eq] at h
  obtain ⟨items, hitems, h⟩ := bind_ok_inv h
  obtain ⟨columns, hcolumns, h⟩ := bind_ok_inv h
  cases h
  exact ⟨items, forall₂_of_mapM hitems, forall₂_of_mapM hcolumns⟩

/-- A column is what its row says, and copies the column that its output names if it is there. -/
theorem columnOf_ok {row : ColumnRow} {output : Output} {c : Column}
    (h : columnOf find row output = .ok c) :
    (output.origin = none ∧ c = .untraced row) ∨
      ∃ source column r, output.origin = some (source, column) ∧ find source = .ok r ∧
        ((r.bind fun r => r.toRelation.column? column) = none ∧ c = .untraced row ∨
          ∃ origin, (r.bind fun r => r.toRelation.column? column) = some origin ∧
            c = .traced row origin) := by
  obtain ⟨name, origin⟩ := output
  cases origin with
  | none =>
    cases h
    exact .inl ⟨rfl, rfl⟩
  | some origin =>
    obtain ⟨r, hr, h⟩ := bind_ok_inv h
    refine .inr ⟨origin.1, origin.2, r, rfl, hr, ?_⟩
    cases hc : r.bind fun r => r.toRelation.column? origin.2 with
    | none =>
      rw [hc] at h
      cases h
      exact .inl ⟨rfl, rfl⟩
    | some copied =>
      rw [hc] at h
      cases h
      exact .inr ⟨copied, rfl, rfl⟩

theorem describes_of_columnOf {row : ColumnRow} {output : Output} {c : Column}
    (h : columnOf find row output = .ok c) : row.Describes c := by
  rcases columnOf_ok h with ⟨-, rfl⟩ | ⟨-, -, -, -, -, ⟨-, rfl⟩ | ⟨origin, -, rfl⟩⟩
  · exact row.describes_untraced
  · exact row.describes_untraced
  · exact row.describes_traced origin

theorem eq_ofColumns_of_run {s : ViewSource} {v : View} (h : (questions s).run find = .ok v) :
    v = ofColumns s v.columns := by
  rw [← ofSource_eq_run, ofSource_eq] at h
  obtain ⟨items, -, h⟩ := bind_ok_inv h
  obtain ⟨columns, -, h⟩ := bind_ok_inv h
  cases h
  rfl

theorem untraced_of_run {s : ViewSource} {v : View} (h : (questions s).run find = .ok v)
    (hs : s.analysis = none) : v = untraced s := by
  rw [← ofSource_eq_run, ofSource, hs] at h
  cases h
  rfl

/-- Whatever a view copies, its columns are the rows of the catalog. -/
theorem describes_of_run {s : ViewSource} {v : View} (h : (questions s).run find = .ok v) :
    List.Forall₂ ColumnRow.Describes s.orderedRows v.columns := by
  obtain ⟨items, -, hcolumns⟩ := columns_of_run h
  rw [← Output.pair_map_fst s.orderedRows items, List.forall₂_map_left_iff]
  exact hcolumns.imp fun p c hc => describes_of_columnOf hc

theorem names_of_run {s : ViewSource} {v : View} (h : (questions s).run find = .ok v) :
    v.columns.map (·.name) = s.columnNames :=
  (map_eq_of_forall₂ (describes_of_run h) fun _ _ hc => hc.name.symm).symm

theorem length_of_run {s : ViewSource} {v : View} (h : (questions s).run find = .ok v) :
    v.columns.length = s.orderedRows.length :=
  (describes_of_run h).length_eq.symm

end View

/-- A column is looked up at the first place where its name stands. -/
theorem Relation.column?_cases (r : Relation) (name : String) :
    ((r.columns.map (·.name)).idxOf? name = none ∧ r.column? name = none) ∨
      ∃ place c, (r.columns.map (·.name)).idxOf? name = some place ∧ r.columns[place]? = some c ∧
        r.column? name = some c := by
  have hlookup : r.column? name =
      ((r.columns.map (·.name)).idxOf? name).bind fun place => r.columns[place]? := by
    rw [Relation.column?, List.idxOf?, List.findIdx?_map, List.find?_eq_bind_findIdx?_getElem?]
    rfl
  cases hplace : (r.columns.map (·.name)).idxOf? name with
  | none =>
    rw [hplace] at hlookup
    exact .inl ⟨rfl, hlookup⟩
  | some place =>
    have hlt : place < r.columns.length := by
      obtain ⟨hlt, -, -⟩ := List.idxOf?_eq_some_iff.mp hplace
      rwa [List.length_map] at hlt
    have hget : r.columns[place]? = some r.columns[place] := List.getElem?_eq_getElem hlt
    rw [hplace] at hlookup
    exact .inr ⟨place, r.columns[place], rfl, hget, hlookup.trans hget⟩

namespace Inventory

variable {i : Inventory}

theorem columnNames?_of_plainFrom {path : List RelationRef} {ref : RelationRef}
    {r : Option TableOrView} (h : i.plainFrom path ref = .ok r) :
    i.columnNames? ref = r.map fun r => r.columns.map (·.name) := by
  cases ht : i.table? ref with
  | some t =>
    rw [plainFrom_table ht] at h
    cases h
    rw [columnNames?, ht]
    rfl
  | none =>
    cases hv : i.view? ref with
    | none =>
      rw [plainFrom_absent ht hv] at h
      cases h
      rw [columnNames?, ht, hv]
      rfl
    | some s =>
      obtain ⟨-, v, hrun, rfl⟩ := plainFrom_view_ok ht hv h
      rw [columnNames?, ht, hv]
      exact congrArg some (View.names_of_run hrun).symm

section Named

/-- Relations are found with the columns that the inventory names. -/
def Named (i : Inventory) (find : RelationRef → Except ViewCycle (Option TableOrView)) : Prop :=
  ∀ source r, find source = .ok r → i.columnNames? source = r.map fun r => r.columns.map (·.name)

variable {find : RelationRef → Except ViewCycle (Option TableOrView)}

theorem splice?_eq_of_outputsOf (hfind : i.Named find) {p : Projection}
    {item : Option (List Output)} (h : View.outputsOf find p = .ok item) : i.splice? p = item := by
  cases p with
  | direct source column name => cases h; rfl
  | untraced name => cases h; rfl
  | wildcard source =>
    cases source with
    | none => cases h; rfl
    | some source =>
      obtain ⟨r, hr, h⟩ := bind_ok_inv h
      cases h
      rw [splice?, hfind source r hr]
      cases r with
      | none => rfl
      | some r =>
        show some ((r.columns.map (·.name)).map _) = some (r.columns.map _)
        rw [List.map_map]
        rfl

theorem items_eq_of_outputsOf (hfind : i.Named find) {projections : List Projection}
    {items : List (Option (List Output))}
    (h : List.Forall₂ (fun p item => View.outputsOf find p = .ok item) projections items) :
    items = projections.map i.splice? := by
  induction h with
  | nil => rfl
  | cons hp _ ih => rw [List.map_cons, splice?_eq_of_outputsOf hfind hp, ih]

theorem flatten_filterMap_id {α β : Type} (f : α → Option (List β)) (as : List α) :
    ((as.map f).filterMap id).flatten = as.flatMap fun a => (f a).getD [] := by
  induction as with
  | nil => rfl
  | cons a as ih =>
    rw [List.map_cons, List.flatMap_cons, ← ih]
    cases ha : f a with
    | none => rfl
    | some bs => rfl

/-- A row is paired with its output, and an output that is not there copies nothing. -/
theorem pair_getElem? {s : ViewSource} {k : Nat} {row : ColumnRow}
    (hrow : s.orderedRows[k]? = some row) :
    ∃ output, (Output.pair s.orderedRows (s.projections.map i.splice?))[k]? = some (row, output) ∧
      output.origin = (i.paired? s k row).bind (·.origin) := by
  have hall : (s.projections.map i.splice?).all (·.isSome) = true ↔
      ∀ p ∈ s.projections, (i.splice? p).isSome := by
    rw [List.all_map, List.all_eq_true]
    rfl
  simp only [Output.pair, paired?, flatten_filterMap_id, Bool.and_eq_true, decide_eq_true_eq, hall]
  by_cases hc : (∀ p ∈ s.projections, (i.splice? p).isSome) ∧
      (s.projections.flatMap fun p => (i.splice? p).getD []).length = s.orderedRows.length
  · have hk : k < (s.projections.flatMap fun p => (i.splice? p).getD []).length := by
      obtain ⟨hk, -⟩ := List.getElem?_eq_some_iff.mp hrow
      omega
    have hget := List.getElem?_eq_getElem hk
    rw [if_pos hc, if_pos hc, hget]
    exact ⟨_, List.getElem?_zip_eq_some.mpr ⟨hrow, hget⟩, rfl⟩
  · rw [if_neg hc, if_neg hc, List.getElem?_map, hrow]
    refine ⟨_, rfl, ?_⟩
    generalize s.projections.flatMap (fun p => (i.splice? p).getD []) = outputs
    cases outputs.find? fun o => o.name = row.name <;> rfl

theorem target?_eq_none {s : ViewSource} {k : Nat} {row : ColumnRow}
    (h : (i.paired? s k row).bind (·.origin) = none) : i.target? s k row = none := by
  unfold target?
  cases hp : i.paired? s k row with
  | none => rfl
  | some output =>
    rw [hp] at h
    show (output.origin.bind _) = none
    rw [show output.origin = none from h]
    rfl

theorem target?_eq {s : ViewSource} {k : Nat} {row : ColumnRow} {source : RelationRef}
    {column : String} (h : (i.paired? s k row).bind (·.origin) = some (source, column)) :
    i.target? s k row =
      ((i.columnNames? source).bind fun names => names.idxOf? column).map fun place =>
        (source, place) := by
  unfold target?
  cases hp : i.paired? s k row with
  | none => rw [hp] at h; cases h
  | some output =>
    rw [hp] at h
    show (output.origin.bind _) = _
    rw [show output.origin = some (source, column) from h]
    show ((i.columnNames? source).bind _) = _
    cases i.columnNames? source with
    | none => rfl
    | some names =>
      show ((names.idxOf? column).bind _) = (names.idxOf? column).map _
      cases names.idxOf? column <;> rfl

/-- What a row copies is found at its target, or there is neither. -/
theorem target?_cases (hfind : i.Named find) {s : ViewSource} {k : Nat} {row : ColumnRow}
    {source : RelationRef} {column : String} {r : Option TableOrView}
    (h : (i.paired? s k row).bind (·.origin) = some (source, column)) (hr : find source = .ok r) :
    (i.target? s k row = none ∧ (r.bind fun r => r.toRelation.column? column) = none) ∨
      ∃ place found c, i.target? s k row = some (source, place) ∧ r = some found ∧
        found.columns[place]? = some c ∧
        (r.bind fun r => r.toRelation.column? column) = some c := by
  have htarget := target?_eq h
  rw [hfind source r hr] at htarget
  cases r with
  | none => exact .inl ⟨htarget, rfl⟩
  | some found =>
    rcases found.toRelation.column?_cases column with ⟨hplace, hc⟩ | ⟨place, c, hplace, hget, hc⟩
    · exact .inl ⟨htarget.trans (congrArg (Option.map _) hplace), hc⟩
    · exact .inr ⟨place, found, c, htarget.trans (congrArg (Option.map _) hplace), rfl, hget, hc⟩

inductive Copied (i : Inventory) (find : RelationRef → Except ViewCycle (Option TableOrView))
    (s : ViewSource) (k : Nat) (row : ColumnRow) : Column → Prop
  | untraced (h : i.target? s k row = none) : Copied i find s k row (.untraced row)
  | traced {source : RelationRef} {place : Nat} {r : TableOrView} {origin : Column}
      (h : i.target? s k row = some (source, place)) (hr : find source = .ok (some r))
      (horigin : r.columns[place]? = some origin) : Copied i find s k row (.traced row origin)

/-- The columns of a view that is made are its rows, each with what the inventory says it copies. -/
theorem column_of_run (hfind : i.Named find) {s : ViewSource} {v : View}
    (h : (View.questions s).run find = .ok v) {k : Nat} {row : ColumnRow}
    (hrow : s.orderedRows[k]? = some row) :
    ∃ c, v.columns[k]? = some c ∧ row.Describes c ∧ i.Copied find s k row c := by
  obtain ⟨items, hitems, hcolumns⟩ := View.columns_of_run h
  rw [items_eq_of_outputsOf hfind hitems] at hcolumns
  obtain ⟨output, hpair, horigin⟩ := pair_getElem? (i := i) hrow
  obtain ⟨c, hc, hcolumn⟩ := getElem?_of_forall₂ hcolumns hpair
  refine ⟨c, hc, View.describes_of_columnOf hcolumn, ?_⟩
  rcases View.columnOf_ok hcolumn with ⟨hnone, rfl⟩ | ⟨source, column, r, hsome, hr, hcopy⟩
  · exact .untraced (target?_eq_none (horigin.symm.trans hnone))
  · rcases target?_cases hfind (horigin.symm.trans hsome) hr with
      ⟨htarget, hmissing⟩ | ⟨place, found, origin, htarget, rfl, hget, hthere⟩
    · rcases hcopy with ⟨-, rfl⟩ | ⟨origin, hthere, -⟩
      · exact .untraced htarget
      · rw [hmissing] at hthere
        cases hthere
    · rcases hcopy with ⟨hmissing, -⟩ | ⟨origin', hthere', rfl⟩
      · rw [hthere] at hmissing
        cases hmissing
      · rw [hthere] at hthere'
        cases hthere'
        exact .traced htarget hr hget

end Named

/-! ## Agreement -/

theorem named_plainFrom (path : List RelationRef) : i.Named (i.plainFrom path) :=
  fun _ _ => columnNames?_of_plainFrom

/-- The columns of a relation that is made have the traits that the inventory shows. -/
theorem shows_iff {path : List RelationRef} {ref : RelationRef} {r : TableOrView} {k : Nat}
    {c : Column} (h : i.plainFrom path ref = .ok (some r)) (hc : r.columns[k]? = some c)
    (traits : Traits) : i.Shows ref k traits ↔ traits = c.traits := by
  cases ht : i.table? ref with
  | some t =>
    rw [plainFrom_table ht] at h
    cases h
    exact shows_table_iff ht hc
  | none =>
    cases hv : i.view? ref with
    | none => rw [plainFrom_absent ht hv] at h; cases h
    | some s =>
      obtain ⟨hp, v, hrun, hr⟩ := plainFrom_view_ok ht hv h
      cases hr
      have hk : k < s.orderedRows.length := by
        obtain ⟨hlt, -⟩ := List.getElem?_eq_some_iff.mp hc
        exact View.length_of_run hrun ▸ hlt
      have hrow := List.getElem?_eq_getElem hk
      obtain ⟨c', hc', -, hcopied⟩ := column_of_run (named_plainFrom (path ++ [ref])) hrun hrow
      have hsame : some c' = some c := hc'.symm.trans hc
      cases hsame
      rw [shows_view_iff ht hv hrow]
      cases hcopied with
      | untraced htarget =>
        rw [htarget]
        simp [Column.traits_untraced]
      | traced htarget hfound horigin =>
        rw [htarget, Column.traits_traced, ← shows_iff hfound horigin traits]
        simp
termination_by i.offPath path
decreasing_by
  have hmem := mem_of_view? hv
  exact hmem.2 ▸ offPath_append_lt hmem.1 (hmem.2 ▸ hp)

/-- A view that a resolver makes, whatever it was asked before, has one column for each row of the
catalog, sorted by position.  The column says of itself what its row says, and its traits are those
that the inventory shows without making any view. -/
theorem columns_after (i : Inventory) (requests : List Request) {ref : RelationRef} {s : ViewSource}
    {r : Option TableOrView} (ht : i.table? ref = none) (hs : i.view? ref = some s)
    (h : ((i.resolve ref).on (i.after requests)).1 = .ok r) :
    ColumnRow.StablySorted s.rows s.orderedRows ∧
      ∃ v, r = some (.view v) ∧ v.columns.length = s.orderedRows.length ∧
        ∀ k row, s.orderedRows[k]? = some row → ∃ c, v.columns[k]? = some c ∧ row.Describes c ∧
          ∀ traits, i.Shows ref k traits ↔ traits = c.traits := by
  rw [resolve_on_fst (i.sound_after requests)] at h
  obtain ⟨-, v, hrun, rfl⟩ := plainFrom_view_ok ht hs h
  refine ⟨ColumnRow.inOrder_stablySorted s.rows, v, rfl, View.length_of_run hrun, ?_⟩
  intro k row hrow
  obtain ⟨c, hc, hdescribes, -⟩ := column_of_run (named_plainFrom _) hrun hrow
  exact ⟨c, hc, hdescribes, fun traits => shows_iff h hc traits⟩

/-- A view that takes over a table, and one above it that renames a column of it. -/
def layeredViews : Inventory where
  tables := [
    (⟨"s", "t", .table⟩,
      { name := "t"
        schemaName := "s"
        columns := [
          { name := "id", ordinalPosition := 1, nullable := false, isPrimary := true }] })]
  views := [
    { ref := ⟨"s", "a", .view⟩
      rows := [{ name := "id", ordinalPosition := 1 }]
      analysis := some {
        sources := [⟨"s", "t", .table⟩]
        projections := [.wildcard (some ⟨"s", "t", .table⟩)] } },
    { ref := ⟨"s", "b", .view⟩
      rows := [{ name := "key", ordinalPosition := 1 }]
      analysis := some {
        sources := [⟨"s", "a", .view⟩]
        projections := [.direct ⟨"s", "a", .view⟩ "id" "id"] } }]

theorem layeredViews_shows :
    ((layeredViews.resolve ⟨"s", "b", .view⟩).on (layeredViews.after [.allViews])).1.isOk ∧
      layeredViews.Shows ⟨"s", "b", .view⟩ 0 ⟨TypeName.unknown, false, true, none⟩ := by
  have hok : ((layeredViews.resolve ⟨"s", "b", .view⟩).on (layeredViews.after [.allViews])).1 =
      .ok (some (.view {
        name := "b"
        schemaName := "s"
        columns := [{ name := "key", ordinalPosition := 1, nullable := false, isPrimary := true }]
        dependsOn := [⟨"s", "a", .view⟩] })) := by
    decide +kernel
  refine ⟨by rw [hok]; rfl, ?_⟩
  obtain ⟨-, v, hv, -, hcolumns⟩ := columns_after layeredViews [.allViews] rfl rfl hok
  cases hv
  have hrow : (ColumnRow.inOrder [{ name := "key", ordinalPosition := 1 }])[0]? =
      some { name := "key", ordinalPosition := 1 } := by
    decide +kernel
  obtain ⟨c, hc, -, hshows⟩ := hcolumns 0 _ hrow
  cases hc
  exact (hshows _).mpr rfl

end Inventory
end SchemaLineage
