import SchemaLineage.Proofs.Schema.Acceptance
/-
Where the columns of a table point.

A column may stand in several foreign keys, and more than once in one of them.  `Hits` lists all the
places where it does, by key and then by the place in the key.  The first one decides where the
column points, and the others only make that ambiguous.

A table is built from the keys alone, without the places where they stand among the constraints.
`placedHits` keeps both, so that the hits by which a column is built and the ones by which it is
judged here are two views of one list.
-/

namespace SchemaLineage

namespace ForeignKeyAction

/-- The ways in which an action is written. -/
def legal : List String := ["NO ACTION", "CASCADE", "SET NULL", "SET DEFAULT", "RESTRICT"]

/-- What a catalog says of an action, in capitals and with one blank between the words. -/
def spelled (raw : Option String) : String := Text.collapsed (Text.uppered (raw.getD ""))

/-- The action is the one that a catalog names, or no action when it names none. -/
structure Named (raw : Option String) (a : ForeignKeyAction) : Prop where
  legal : a.word ∈ legal
  named : spelled raw ∈ ForeignKeyAction.legal → a.word = spelled raw
  unnamed : spelled raw ∉ ForeignKeyAction.legal → a.word = "NO ACTION"

theorem word_of_mem_words {text : String} {a : ForeignKeyAction} (h : (text, a) ∈ words) :
    a.word = text := by
  have hall : ∀ p ∈ words, p.2.word = p.1 := by decide
  exact hall _ h

theorem word_mem_legal (a : ForeignKeyAction) : a.word ∈ legal := by cases a <;> decide

theorem ofText_eq (raw : Option String) :
    ofText raw = (words.lookup (spelled raw)).getD .noAction := by
  simp only [ofText, spelled, Text.collapsed, Text.uppered, String.toList_ofList]

theorem named_ofText (raw : Option String) : Named raw (ofText raw) := by
  refine ⟨word_mem_legal _, fun hmem => ?_, fun hout => ?_⟩
  · cases hl : words.lookup (spelled raw) with
    | some a =>
      rw [ofText_eq, hl]
      obtain ⟨before, after, heq, -⟩ := List.lookup_eq_some_iff.mp hl
      exact word_of_mem_words (heq ▸ List.mem_append_right before List.mem_cons_self)
    | none =>
      obtain ⟨p, hp, heq⟩ : ∃ p ∈ words, p.1 = spelled raw := List.mem_map.mp hmem
      have hne := List.lookup_eq_none_iff.mp hl p hp
      rw [heq] at hne
      simp at hne
  · cases hl : words.lookup (spelled raw) with
    | some a =>
      obtain ⟨before, after, heq, -⟩ := List.lookup_eq_some_iff.mp hl
      have hmem : (spelled raw, a) ∈ words := heq ▸ List.mem_append_right before List.mem_cons_self
      exact absurd (List.mem_map_of_mem (f := Prod.fst) hmem) hout
    | none =>
      rw [ofText_eq, hl]
      rfl

end ForeignKeyAction

/-- All places where foreign keys name a column: the place of the key among the constraints, and the
place of the column in the key. -/
structure Hits (constraints : List ConstraintRow) (name : String) (hits : List (Nat × Nat)) :
    Prop where
  mem_iff : ∀ n place, (n, place) ∈ hits ↔
    ∃ k, constraints[n]? = some k ∧ k.kind = .foreignKey ∧ k.columns[place]? = some name
  ascending : hits.Pairwise (Prod.Lex (· < ·) (· < ·))

/-- The first hit is at this place of this key. -/
def FirstHit (constraints : List ConstraintRow) (hits : List (Nat × Nat)) (k : ConstraintRow)
    (place : Nat) : Prop :=
  ∃ n, hits.head? = some (n, place) ∧ constraints[n]? = some k

theorem FirstHit.unique {constraints : List ConstraintRow} {hits : List (Nat × Nat)}
    {k k' : ConstraintRow} {place place' : Nat} (h : FirstHit constraints hits k place)
    (h' : FirstHit constraints hits k' place') : k = k' ∧ place = place' := by
  obtain ⟨n, hhead, hk⟩ := h
  obtain ⟨n', hhead', hk'⟩ := h'
  rw [hhead] at hhead'
  cases hhead'
  rw [hk] at hk'
  cases hk'
  exact ⟨rfl, rfl⟩

/-- A reference is what a key says of the column at a place of it. -/
structure ForeignKey.Follows (schemaName : String) (k : ConstraintRow) (place : Nat)
    (f : ForeignKey) : Prop where
  table : k.referredTable = some f.tableName ∧ f.tableName ≠ ""
  column : k.referredColumns[place]? = some f.columnName
  schema : (k.referredSchema = some f.schemaName ∧ f.schemaName ≠ "") ∨
    ((k.referredSchema = none ∨ k.referredSchema = some "") ∧ f.schemaName = schemaName)
  constraint : f.constraintName = k.name
  onDelete : f.onDelete.Named k.onDelete
  onUpdate : f.onUpdate.Named k.onUpdate

namespace Table

section

variable {constraints : List ConstraintRow} {name : String}

theorem hits_eq (keys : List ConstraintRow) :
    hits name keys = keys.flatMap fun k => (k.columns.idxsOf name).map (k, ·) := by
  refine congrArg (keys.flatMap ·) (funext fun k => ?_)
  rw [List.idxsOf, List.findIdxs_eq_filterMap_zipIdx, List.map_filterMap]
  refine congrArg (List.filterMap · _) (funext fun c => ?_)
  by_cases hc : c.1 = name
  · rw [if_pos hc, beq_iff_eq.mpr hc]
    rfl
  · rw [if_neg hc, beq_eq_false_iff_ne.mpr hc]
    rfl

/-- The hits of a column, with the key and its place among the constraints. -/
def placedHits (constraints : List ConstraintRow) (name : String) :
    List ((ConstraintRow × Nat) × Nat) :=
  (constraints.zipIdx.filter fun p => isForeignKey p.1).flatMap fun p =>
    (p.1.columns.idxsOf name).map (p, ·)

theorem mem_placedHits {k : ConstraintRow} {n place : Nat} :
    ((k, n), place) ∈ placedHits constraints name ↔
      constraints[n]? = some k ∧ k.kind = .foreignKey ∧ k.columns[place]? = some name := by
  have hplace : place ∈ k.columns.idxsOf name ↔ k.columns[place]? = some name := by
    rw [List.idxsOf, List.mem_findIdxs_iff_exists_getElem_pos, List.getElem?_eq_some_iff]
    simp only [beq_iff_eq]
  simp only [placedHits, List.mem_flatMap, List.mem_filter, List.mem_zipIdx_iff_getElem?,
    isForeignKey, decide_eq_true_eq, List.mem_map, Prod.mk.injEq]
  constructor
  · rintro ⟨p, ⟨hk, hkind⟩, q, hq, rfl, rfl⟩
    exact ⟨hk, hkind, hplace.mp hq⟩
  · rintro ⟨hk, hkind, hcolumn⟩
    exact ⟨(k, n), ⟨hk, hkind⟩, place, hplace.mpr hcolumn, rfl, rfl⟩

theorem hits_eq_map :
    hits name (constraints.filter isForeignKey) =
      (placedHits constraints name).map fun h => (h.1.1, h.2) := by
  have hkeys : constraints.filter isForeignKey =
      (constraints.zipIdx.filter fun p => isForeignKey p.1).map Prod.fst := by
    conv_lhs => rw [← List.zipIdx_map_fst 0 constraints]
    exact List.filter_map
  rw [hits_eq, hkeys, List.flatMap_map, placedHits, List.map_flatMap]
  simp only [List.map_map]
  rfl

theorem hits_of_placedHits :
    Hits constraints name ((placedHits constraints name).map fun h => (h.1.2, h.2)) where
  mem_iff n place := by
    rw [List.mem_map]
    constructor
    · rintro ⟨⟨⟨k, n⟩, place⟩, h, ⟨⟩⟩
      exact ⟨k, mem_placedHits.mp h⟩
    · rintro ⟨k, h⟩
      exact ⟨((k, n), place), mem_placedHits.mpr h, rfl⟩
  ascending := by
    have hkeys : constraints.zipIdx.Pairwise fun p q => p.2 < q.2 := by
      rw [← List.pairwise_map, List.zipIdx_map_snd]
      exact List.pairwise_lt_range'
    rw [List.pairwise_map, placedHits, List.pairwise_flatMap]
    refine ⟨fun p _ => ?_, (hkeys.filter _).imp fun hlt h hh h' hh' => ?_⟩
    · rw [List.pairwise_map]
      exact List.pairwise_findIdxs.imp fun hlt => Prod.Lex.right _ hlt
    · obtain ⟨_, -, rfl⟩ := List.mem_map.mp hh
      obtain ⟨_, -, rfl⟩ := List.mem_map.mp hh'
      exact Prod.Lex.left _ _ hlt

/-! ## The first hit -/

section

variable {schemaName : String} {k : ConstraintRow} {n place : Nat}
  {more : List (ConstraintRow × Nat)} {placed : List ((ConstraintRow × Nat) × Nat)}

theorem reference?_eq_none_iff :
    reference? schemaName ((k, place) :: more) = none ↔
      k.referredTable = none ∨ k.referredTable = some "" ∨ k.referredColumns.length ≤ place := by
  rw [← List.getElem?_eq_none_iff]
  cases htable : k.referredTable with
  | none => simp [reference?, htable]
  | some table =>
    cases hcolumn : k.referredColumns[place]? with
    | none => simp [reference?, htable, hcolumn]
    | some column =>
      by_cases hempty : table = ""
      · simp [reference?, htable, hcolumn, hempty]
      · simp [reference?, htable, hcolumn, hempty]

/-- A key that names no schema speaks of a table of the same one. -/
theorem schema_cases {raw : Option String} {name : String}
    (h : (raw.filter fun s => !s.isEmpty).getD schemaName = name) :
    (raw = some name ∧ name ≠ "") ∨ ((raw = none ∨ raw = some "") ∧ name = schemaName) := by
  subst h
  cases raw with
  | none => exact .inr ⟨.inl rfl, rfl⟩
  | some s =>
    by_cases hs : s = ""
    · subst hs
      exact .inr ⟨.inr rfl, rfl⟩
    · have hkept : (some s).filter (fun s => !s.isEmpty) = some s := by simp [hs]
      rw [hkept]
      exact .inl ⟨rfl, hs⟩

theorem follows_of_reference? {f : ForeignKey}
    (h : reference? schemaName ((k, place) :: more) = some f) :
    f.Follows schemaName k place ∧ (f.ambiguous = true ↔ more ≠ [] ∨ 1 < k.columns.length) := by
  cases htable : k.referredTable with
  | none => simp [reference?, htable] at h
  | some table =>
    cases hcolumn : k.referredColumns[place]? with
    | none => simp [reference?, htable, hcolumn] at h
    | some column =>
      by_cases hempty : table = ""
      · simp [reference?, htable, hcolumn, hempty] at h
      · simp only [reference?, htable, hcolumn, String.isEmpty_iff, hempty, ↓reduceIte,
          Option.some.injEq] at h
        subst h
        refine ⟨⟨⟨htable, hempty⟩, hcolumn, schema_cases rfl, rfl, ?_, ?_⟩, ?_⟩
        · dsimp only
          exact ForeignKeyAction.named_ofText k.onDelete
        · dsimp only
          exact ForeignKeyAction.named_ofText k.onUpdate
        · simp only [Bool.or_eq_true, Bool.not_eq_true', List.isEmpty_eq_false_iff,
            decide_eq_true_eq, ne_eq]

theorem column_reference (row : ColumnRow) :
    (column schemaName constraints row).reference = reference? schemaName
      ((placedHits constraints row.name).map fun h => (h.1.1, h.2)) := by
  rw [← hits_eq_map]
  rfl

theorem firstHit_of_placedHits (h : placedHits constraints name = ((k, n), place) :: placed) :
    FirstHit constraints ((((k, n), place) :: placed).map fun h => (h.1.2, h.2)) k place := by
  have hmem : ((k, n), place) ∈ placedHits constraints name := h ▸ List.mem_cons_self
  exact ⟨n, rfl, (mem_placedHits.mp hmem).1⟩

end

/-- A column points where the first foreign key that names it says, if that key names a target for
it.  More hits, or more columns in that key, make the reference ambiguous. -/
theorem reference_of_ofRows {ref : RelationRef} {rows : List ColumnRow}
    {constraints : List ConstraintRow} {comment : Option String} {t : Table}
    (h : ofRows ref rows constraints comment = .ok t) {c : Column} (hc : c ∈ t.columns) :
    ∃ hits, Hits constraints c.name hits ∧
      (c.reference = none ↔ hits = [] ∨ ∃ k place, FirstHit constraints hits k place ∧
        (k.referredTable = none ∨ k.referredTable = some "" ∨ k.referredColumns.length ≤ place)) ∧
      ∀ f, c.reference = some f → ∃ k place, FirstHit constraints hits k place ∧
        f.Follows ref.schemaName k place ∧
          (f.ambiguous = true ↔ 1 < hits.length ∨ 1 < k.columns.length) := by
  rw [(of_ofRows_ok h).2] at hc
  obtain ⟨row, -, rfl⟩ := List.mem_map.mp hc
  refine ⟨(placedHits constraints row.name).map fun h => (h.1.2, h.2), hits_of_placedHits, ?_⟩
  rw [column_reference]
  cases hplaced : placedHits constraints row.name with
  | nil =>
    refine ⟨iff_of_true rfl (.inl rfl), fun f hf => ?_⟩
    cases hf
  | cons first more =>
    obtain ⟨⟨k, n⟩, place⟩ := first
    have hfirst := firstHit_of_placedHits hplaced
    refine ⟨?_, fun f hf => ?_⟩
    · rw [List.map_cons, reference?_eq_none_iff]
      constructor
      · exact fun h => .inr ⟨k, place, hfirst, h⟩
      · rintro (h | ⟨k', place', hfirst', h⟩)
        · cases h
        · obtain ⟨rfl, rfl⟩ := hfirst.unique hfirst'
          exact h
    · obtain ⟨hfollows, hambiguous⟩ := follows_of_reference? hf
      refine ⟨k, place, hfirst, hfollows, hambiguous.trans (or_congr_left ?_)⟩
      rw [← List.length_pos_iff, List.length_map, List.length_map, List.length_cons]
      omega

end

def regionRow : ColumnRow := { name := "region", ordinalPosition := 2 }

def overlappingRows : List ColumnRow := [{ name := "id", ordinalPosition := 1 }, regionRow]

/-- Two foreign keys over one column: the first one spans another column too, and only the first one
has a target for it. -/
def overlappingKeys : List ConstraintRow := [
  { kind := .primaryKey, columns := ["id"] },
  { name := some "home", kind := .foreignKey, columns := ["id", "region"]
    referredTable := some "places", referredColumns := ["place", "area"]
    onDelete := some " set  null" },
  { kind := .foreignKey, columns := ["region"], referredTable := some "regions" }]

theorem overlappingKeys_reference :
    ∃ t c, ofRows ⟨"s", "t", .table⟩ overlappingRows overlappingKeys none = .ok t ∧
      c ∈ t.columns ∧ ∃ hits f k place, Hits overlappingKeys "region" hits ∧
        FirstHit overlappingKeys hits k place ∧ c.reference = some f ∧ f.Follows "s" k place ∧
          f.columnName = "area" ∧ f.onDelete = .setNull ∧ f.ambiguous = true := by
  have horder : ColumnRow.inOrder overlappingRows = overlappingRows :=
    List.mergeSort_of_pairwise (by decide)
  cases ht : ofRows ⟨"s", "t", .table⟩ overlappingRows overlappingKeys none with
  | error m =>
    have hnone : mismatch? overlappingRows overlappingKeys = none := by decide
    rw [ofRows_eq_error_iff, horder, hnone] at ht
    cases ht
  | ok t =>
    have hc : column "s" overlappingKeys regionRow ∈ t.columns := by
      rw [(of_ofRows_ok ht).2, horder]
      exact List.mem_map_of_mem (by decide)
    have hreference : (column "s" overlappingKeys regionRow).reference =
        some { schemaName := "s", tableName := "places", columnName := "area"
               constraintName := some "home", onDelete := .setNull, ambiguous := true } := by
      decide +kernel
    obtain ⟨hits, hhits, -, hfollows⟩ := reference_of_ofRows ht hc
    obtain ⟨k, place, hfirst, hfollows, -⟩ := hfollows _ hreference
    exact ⟨t, _, rfl, hc, hits, _, k, place, hhits, hfirst, hreference, hfollows, rfl, rfl, rfl⟩

end Table
end SchemaLineage
