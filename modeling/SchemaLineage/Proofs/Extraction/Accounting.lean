import SchemaLineage.Proofs.Extraction.Listing
/-
Where everything that is listed ends up.

Each listed table is in the result or is reported as skipped.  Each listed view and each type is in
the result and says of itself what the catalog says of it (`Describes`).  Every issue is of one of
three kinds, so the issues of a result are counted kind by kind (`Accounted`).  A step lemma says what
one table adds to the issues of each kind; the rest is that tables and views are gone through in the
order of the listing.
-/

namespace SchemaLineage

def Mismatch.ofOutcome? : Except Mismatch Table → Option Mismatch
  | .error m => some m
  | .ok _ => none

namespace Issue

variable (t : RelationRef × Except Mismatch Table)

theorem kind_of_ambiguous? {ref : RelationRef} {c : Column} {x : Issue}
    (h : ambiguous? ref c = some x) : x.kind = .ambiguousReference := by
  obtain ⟨k, -, rfl⟩ := Option.map_eq_some_iff.mp h
  rfl

theorem kind_of_degraded? {known : KnownRelations} {dialect : Sql.Language} {ref : RelationRef}
    {definition : Option String} {x : Issue}
    (h : degraded? known dialect ref definition = some x) : x.kind = .degradedView := by
  unfold degraded? at h
  split at h
  · cases h
    rfl
  · cases h

theorem ofTable_skipped :
    (ofTable t).filter (fun x => x.kind = .skippedRelation) =
      ((Mismatch.ofOutcome? t.2).map (skipped t.1)).toList := by
  obtain ⟨ref, outcome⟩ := t
  cases outcome with
  | error m => rfl
  | ok table =>
    refine List.filter_eq_nil_iff.mpr fun x hx => ?_
    obtain ⟨c, -, hc⟩ := List.mem_filterMap.mp hx
    rw [kind_of_ambiguous? hc]
    decide

theorem ofTable_degraded : (ofTable t).filter (fun x => x.kind = .degradedView) = [] := by
  obtain ⟨ref, outcome⟩ := t
  cases outcome with
  | error m => rfl
  | ok table =>
    refine List.filter_eq_nil_iff.mpr fun x hx => ?_
    obtain ⟨c, -, hc⟩ := List.mem_filterMap.mp hx
    rw [kind_of_ambiguous? hc]
    decide

/-- The columns of a table whose reference is not the whole truth, by name. -/
def ambiguousColumns (table : Table) : List (String × Option String) :=
  (table.columns.filter fun c => c.reference.any (·.ambiguous)).map fun c =>
    (table.ref.qualifiedName, some c.name)

theorem ambiguous?_place (ref : RelationRef) (c : Column) :
    (ambiguous? ref c).map (fun x => (x.relation, x.column)) =
      if c.reference.any (·.ambiguous) then some (ref.qualifiedName, some c.name) else none := by
  unfold ambiguous?
  cases c.reference with
  | none => rfl
  | some k =>
    by_cases hk : k.ambiguous = true
    · simp [Option.filter, hk]
    · simp [Option.filter, hk]

theorem ofTable_ambiguous (href : ∀ table, t.2 = .ok table → table.ref = t.1) :
    ((ofTable t).filter fun x => x.kind = .ambiguousReference).map
        (fun x => (x.relation, x.column)) = t.2.toOption.toList.flatMap ambiguousColumns := by
  obtain ⟨ref, outcome⟩ := t
  cases outcome with
  | error m => rfl
  | ok table =>
    have hall : (ofTable (ref, .ok table)).filter (fun x => x.kind = .ambiguousReference) =
        table.columns.filterMap (ambiguous? ref) := by
      refine List.filter_eq_self.mpr fun x hx => ?_
      obtain ⟨c, -, hc⟩ := List.mem_filterMap.mp hx
      rw [kind_of_ambiguous? hc]
      decide
    have hone : (Except.toOption (.ok table : Except Mismatch Table)).toList = [table] := rfl
    rw [hall, hone, List.flatMap_singleton, ambiguousColumns, href table rfl, List.map_filterMap,
      ← List.filterMap_eq_map, List.filterMap_filter]
    exact List.filterMap_congr fun c _ => ambiguous?_place ref c

end Issue

/-! ## Types and their rows -/

/-- The type says what its row says.  An empty base type is none. -/
structure TypeRow.Describes (row : TypeRow) (t : CustomType) : Prop where
  name : t.name = row.name
  schemaName : t.schemaName = row.schemaName
  kind : t.kind = row.kind
  labels : t.labels = row.labels
  baseType : ∀ b, t.baseType = some b ↔
    ∃ written, row.baseType = some written ∧ written ≠ "" ∧ TypeName.normalize (some written) = b
  remarks : t.remarks = Remarks.ofComment? row.comment

theorem TypeRow.describes_ofRow (row : TypeRow) : row.Describes (.ofRow row) where
  name := rfl
  schemaName := rfl
  kind := rfl
  labels := rfl
  baseType b := by
    rw [CustomType.ofRow]
    cases row.baseType with
    | none => simp
    | some written => by_cases hempty : written = "" <;> simp [Option.filter_some, hempty]
  remarks := rfl

namespace Catalog

variable {c : Catalog} {schemaName : String} {resolve : Bool} {refs : List RelationRef}
  {r : Reading} {e : Extraction}

/-- What the rows of a table come to, when all of them can be read. -/
def outcome? (c : Catalog) (ref : RelationRef) : Option (Except Mismatch Table) := do
  let rows ← (c.columns ref).toOption
  let constraints ← (c.constraints ref).toOption
  let comment ← (c.comment ref).toOption
  return Table.ofRows ref rows constraints comment

def built? (c : Catalog) (ref : RelationRef) : Option Table :=
  (c.outcome? ref).bind Except.toOption

def mismatch? (c : Catalog) (ref : RelationRef) : Option Mismatch :=
  (c.outcome? ref).bind Mismatch.ofOutcome?

def tableIssues (c : Catalog) (ref : RelationRef) : List Issue :=
  (c.outcome? ref).toList.flatMap fun outcome => Issue.ofTable (ref, outcome)

theorem outcome?_eq_some_iff {ref : RelationRef} {outcome : Except Mismatch Table} :
    c.outcome? ref = some outcome ↔ c.table ref = .ok (ref, outcome) := by
  unfold outcome? table
  cases c.columns ref with
  | error f => exact iff_of_false nofun nofun
  | ok rows =>
    cases c.constraints ref with
    | error f => exact iff_of_false nofun nofun
    | ok constraints =>
      cases c.comment ref with
      | error f => exact iff_of_false nofun nofun
      | ok comment =>
        constructor
        · rintro ⟨⟩
          rfl
        · rintro ⟨⟩
          rfl

theorem outcome?_eq {ref : RelationRef} {t : RelationRef × Except Mismatch Table}
    (h : c.table ref = .ok t) : c.outcome? ref = some t.2 := by
  have href : t.1 = ref := table_ref h
  rw [outcome?_eq_some_iff, h, ← href]

/-- The view says of itself what the catalog says of the relation. -/
structure Describes (c : Catalog) (ref : RelationRef) (v : View) : Prop where
  named : v.ref = ref
  columns : ∃ rows, c.columns ref = .ok rows ∧
    List.Forall₂ ColumnRow.Describes (ColumnRow.inOrder rows) v.columns
  remarks : ∃ comment, c.comment ref = .ok comment ∧ v.remarks = Remarks.ofComment? comment
  definition : c.definition ref = .ok v.definition

/-- The listed tables without those that were skipped, all views, all types, and the issues: one for
each skipped table, one for each column of a table whose reference is ambiguous, and one for each
view that could not be analyzed, if views were analyzed at all. -/
structure Accounted (c : Catalog) (schemaName : String) (resolve : Bool) (refs : List RelationRef)
    (known : KnownRelations) (e : Extraction) : Prop where
  tables : e.schema.tables = (tablesOf refs).filterMap c.built?
  kept : e.schema.tables.map Table.ref =
    (tablesOf refs).filter fun ref => (c.mismatch? ref).isNone
  views : e.schema.views.map View.ref = viewsOf refs
  described : List.Forall₂ c.Describes (viewsOf refs) e.schema.views
  types : ∃ rows, c.types schemaName = .ok rows ∧
    List.Forall₂ TypeRow.Describes rows e.schema.types
  skipped : e.issuesOf .skippedRelation =
    (tablesOf refs).filterMap fun ref => (c.mismatch? ref).map (Issue.skipped ref)
  ambiguous : (e.issuesOf .ambiguousReference).map (fun x => (x.relation, x.column)) =
    e.schema.tables.flatMap Issue.ambiguousColumns
  degraded : e.issuesOf .degradedView =
    if resolve then (viewsOf refs).filterMap (c.degraded? known) else []
  order : e.issues = (tablesOf refs).flatMap c.tableIssues ++ e.issuesOf .degradedView

namespace Listed

variable (h : c.Listed refs r)

include h

theorem table_ref_of_built {t : RelationRef × Except Mismatch Table} (ht : t ∈ r.tables) :
    ∀ table, t.2 = .ok table → table.ref = t.1 := by
  intro table hok
  obtain ⟨ref, href, hread⟩ := exists_of_mem_right h.tables ht
  obtain ⟨ref', outcome⟩ := t
  have hview : ref.isView = false := by simpa using (List.mem_filter.mp href).2
  have hok' : outcome = .ok table := hok
  have href' : ref' = ref := table_ref hread
  subst hok' href'
  exact table_ok_ref hview hread

theorem tables_eq (hnodup : refs.Nodup) :
    r.built.map (·.2) = (tablesOf refs).filterMap c.built? := by
  rw [h.built hnodup, List.map_filterMap]
  refine (filterMap_eq_of_forall₂ h.tables fun ref t ht => ?_).symm
  rw [built?, outcome?_eq ht]
  show t.2.toOption = (t.2.toOption.map _).map _
  rw [Option.map_map]
  exact Option.map_id'.symm

theorem kept_eq : ((tablesOf refs).filterMap c.built?).map Table.ref =
    (tablesOf refs).filter fun ref => (c.mismatch? ref).isNone := by
  rw [List.map_filterMap, ← List.filterMap_eq_filter]
  refine List.filterMap_congr fun ref href => ?_
  obtain ⟨t, ht, hread⟩ := exists_of_mem_left h.tables href
  have hbuilt := h.table_ref_of_built ht
  have href := table_ref hread
  simp only [Option.guard, built?, mismatch?, outcome?_eq hread]
  obtain ⟨ref', outcome⟩ := t
  cases outcome with
  | error m => rfl
  | ok table =>
    have htable : table.ref = ref := (hbuilt table rfl).trans href
    show some table.ref = some ref
    rw [htable]

theorem tableIssues_eq : r.tables.flatMap Issue.ofTable = (tablesOf refs).flatMap c.tableIssues := by
  refine (flatMap_eq_of_forall₂ h.tables fun ref t ht => ?_).symm
  have href := table_ref ht
  rw [tableIssues, outcome?_eq ht, ← href]
  exact List.flatMap_singleton ..

theorem skipped_eq : (r.tables.flatMap Issue.ofTable).filter (fun x => x.kind = .skippedRelation) =
    (tablesOf refs).filterMap fun ref => (c.mismatch? ref).map (Issue.skipped ref) := by
  rw [List.filter_flatMap, List.filterMap_eq_flatMap_toList]
  refine (flatMap_eq_of_forall₂ h.tables fun ref t ht => ?_).symm
  rw [Issue.ofTable_skipped, mismatch?, outcome?_eq ht, table_ref ht]
  rfl

theorem ambiguous_eq (hnodup : refs.Nodup) :
    ((r.tables.flatMap Issue.ofTable).filter fun x => x.kind = .ambiguousReference).map
        (fun x => (x.relation, x.column)) =
      (r.built.map (·.2)).flatMap Issue.ambiguousColumns := by
  rw [h.built hnodup, List.map_filterMap, List.filterMap_eq_flatMap_toList, List.flatMap_assoc,
    List.filter_flatMap, List.map_flatMap]
  refine List.flatMap_congr fun t ht => ?_
  rw [Issue.ofTable_ambiguous t (h.table_ref_of_built ht), Option.map_map]
  exact congrArg (fun x => (Option.toList x).flatMap _) Option.map_id'.symm

end Listed

theorem kind_of_degraded {known : KnownRelations} {refs : List RelationRef} {x : Issue}
    (h : x ∈ (viewsOf refs).filterMap (c.degraded? known)) : x.kind = .degradedView := by
  obtain ⟨ref, -, h⟩ := List.mem_filterMap.mp h
  obtain ⟨definition, -, h⟩ := Option.bind_eq_some_iff.mp h
  exact Issue.kind_of_degraded? h

theorem kind_of_tables (r : Reading) :
    ∀ x ∈ r.tables.flatMap Issue.ofTable, x.kind ≠ .degradedView := by
  intro x hx hkind
  obtain ⟨t, -, hx⟩ := List.mem_flatMap.mp hx
  have hmem : x ∈ (Issue.ofTable t).filter fun x => x.kind = .degradedView :=
    List.mem_filter.mpr ⟨hx, decide_eq_true hkind⟩
  rw [Issue.ofTable_degraded] at hmem
  cases hmem

section Kinds

variable {views : List View} {issues : List Issue} (h : ∀ x ∈ issues, x.kind = .degradedView)

include h

theorem issuesOf_degraded :
    (r.extraction schemaName views issues).issuesOf .degradedView = issues := by
  have htables : (r.tables.flatMap Issue.ofTable).filter (fun x => x.kind = .degradedView) = [] :=
    List.filter_eq_nil_iff.mpr fun x hx => by simpa using kind_of_tables r x hx
  have hissues : issues.filter (fun x => x.kind = .degradedView) = issues :=
    List.filter_eq_self.mpr fun x hx => decide_eq_true (h x hx)
  show (r.tables.flatMap Issue.ofTable ++ issues).filter _ = issues
  rw [List.filter_append, htables, hissues, List.nil_append]

theorem issuesOf_of_ne {k : IssueKind} (hk : k ≠ .degradedView) :
    (r.extraction schemaName views issues).issuesOf k =
      (r.tables.flatMap Issue.ofTable).filter fun x => x.kind = k := by
  have hissues : issues.filter (fun x => x.kind = k) = [] := by
    refine List.filter_eq_nil_iff.mpr fun x hx => ?_
    rw [h x hx]
    simpa using hk.symm
  show (r.tables.flatMap Issue.ofTable ++ issues).filter _ = _
  rw [List.filter_append, hissues, List.append_nil]

theorem issues_not_degraded :
    (r.extraction schemaName views issues).issues.filter (fun x => x.kind ≠ .degradedView) =
      r.tables.flatMap Issue.ofTable := by
  have htables : (r.tables.flatMap Issue.ofTable).filter (fun x => x.kind ≠ .degradedView) =
      r.tables.flatMap Issue.ofTable :=
    List.filter_eq_self.mpr fun x hx => decide_eq_true (kind_of_tables r x hx)
  have hissues : issues.filter (fun x => x.kind ≠ .degradedView) = [] :=
    List.filter_eq_nil_iff.mpr fun x hx => by simpa using h x hx
  show (r.tables.flatMap Issue.ofTable ++ issues).filter _ = _
  rw [List.filter_append, htables, hissues, List.append_nil]

end Kinds

/-! ## Views and what the catalog says of them -/

theorem describes_ofColumns {ref : RelationRef} {w : ViewSource} {columns : List Column}
    (analysis : Option ViewAnalysis) (hw : c.view ref = .ok w) (hview : w.ref.isView = true)
    (hcolumns : List.Forall₂ ColumnRow.Describes w.orderedRows columns) :
    c.Describes ref (View.ofColumns { w with analysis } columns) := by
  obtain ⟨rows, hrows, hw⟩ := bind_ok_inv hw
  obtain ⟨comment, hcomment, hw⟩ := bind_ok_inv hw
  obtain ⟨definition, hdefinition, hw⟩ := bind_ok_inv hw
  cases hw
  exact ⟨View.ref_ofColumns _ hview, ⟨rows, hrows, hcolumns⟩, ⟨comment, hcomment, rfl⟩, hdefinition⟩

theorem describes_untraced {ref : RelationRef} {w : ViewSource} (hw : c.view ref = .ok w)
    (hview : w.ref.isView = true) : c.Describes ref (View.untraced w) := by
  refine describes_ofColumns w.analysis hw hview ?_
  rw [List.forall₂_map_right_iff]
  exact List.forall₂_same.mpr fun row _ => row.describes_untraced

/-- An analysis tells where columns come from, and nothing of what the view says of itself. -/
theorem Passed.describes_of_made {i : Inventory} {ref : RelationRef} {w : ViewSource} {v : View}
    (h : c.Passed schemaName r i e) (hread : c.view ref = .ok w) (hw : w ∈ r.views)
    (hv : i.plainFrom [] w.ref = .ok (some (.view v))) : c.Describes ref v := by
  obtain ⟨s, issues, -, hanalyzed, hrun⟩ := h.run_of_made hw hv
  have hview := h.sorted.views w hw
  have hcolumns := View.describes_of_run hrun
  rw [View.eq_ofColumns_of_run hrun]
  rcases Reading.analyzed_ok hanalyzed with ⟨a, -, rfl⟩ | ⟨f, -, rfl⟩
  · exact describes_ofColumns (some a) hread hview hcolumns
  · exact describes_ofColumns s.analysis hread hview hcolumns

theorem describes_of_pass (hlisted : c.Listed refs r) (hnodup : refs.Nodup)
    (hread : c.read schemaName = .ok r) (h : c.pass schemaName resolve = .ok e) :
    List.Forall₂ c.Describes (viewsOf refs) e.schema.views := by
  cases resolve with
  | true =>
    obtain ⟨i, hpassed⟩ := passed_of_read hread h
    have hmade := hpassed.made (hlisted.views_nodup hnodup)
    exact forall₂_of_common hlisted.views.flip hmade fun w _ ref v hview hv =>
      hpassed.describes_of_made hview hv.1 hv.2
  | false =>
    rw [pass_of_read hread] at h
    cases h
    have hsame : List.Forall₂ (fun w v => v = View.untraced w) r.views
        (r.views.map View.untraced) := by
      rw [List.forall₂_map_right_iff]
      exact List.forall₂_same.mpr fun _ _ => rfl
    refine forall₂_of_common hlisted.views.flip hsame fun w hw ref v hview hv => ?_
    rw [hv]
    exact describes_untraced hview ((sorted_of_read hread).views w hw)

theorem accounted_of_read (hrefs : c.relations schemaName = .ok refs) (hnodup : refs.Nodup)
    (hread : c.read schemaName = .ok r) (h : c.pass schemaName resolve = .ok e) :
    c.Accounted schemaName resolve refs r.known e := by
  obtain ⟨hlisted, htypes⟩ := listed_of_read hrefs hread
  have hdescribed := describes_of_pass hlisted hnodup hread h
  have hviewRefs : (viewsOf refs).map id = e.schema.views.map View.ref :=
    map_eq_of_forall₂ hdescribed fun ref v hv => hv.named.symm
  obtain ⟨views, issues, hviews, rfl⟩ := extraction_of_read hread h
  have hissues : issues =
      if resolve then (viewsOf refs).filterMap (c.degraded? r.known) else [] := by
    cases resolve with
    | true => exact (Reading.issues_of_views hviews).trans hlisted.degraded
    | false => cases hviews; rfl
  have hkind : ∀ x ∈ issues, x.kind = .degradedView := by
    rw [hissues]
    intro x hx
    split at hx
    · exact kind_of_degraded hx
    · cases hx
  constructor
  case tables => exact hlisted.tables_eq hnodup
  case kept =>
    show (r.built.map (·.2)).map Table.ref = _
    rw [hlisted.tables_eq hnodup, hlisted.kept_eq]
  case views => rw [← hviewRefs, List.map_id]
  case described => exact hdescribed
  case types =>
    refine ⟨r.types, htypes, ?_⟩
    show List.Forall₂ TypeRow.Describes r.types (r.types.map CustomType.ofRow)
    rw [List.forall₂_map_right_iff]
    exact List.forall₂_same.mpr fun row _ => row.describes_ofRow
  case skipped => rw [issuesOf_of_ne hkind (by decide), hlisted.skipped_eq]
  case ambiguous =>
    rw [issuesOf_of_ne hkind (by decide), hlisted.ambiguous_eq hnodup]
    rfl
  case degraded => exact (issuesOf_degraded hkind).trans hissues
  case order =>
    rw [issuesOf_degraded hkind, ← hlisted.tableIssues_eq]
    rfl

theorem pass_of_extract {limit : Option Seconds}
    (h : c.extract schemaName resolve limit = .ok e) : c.pass schemaName resolve = .ok e := by
  unfold extract at h
  split at h
  · cases h
  · exact h

/-- Whatever is listed, once each, is in the result or accounted for by an issue. -/
theorem extract_accounted {limit : Option Seconds} (hrefs : c.relations schemaName = .ok refs)
    (hnodup : refs.Nodup) (h : c.extract schemaName resolve limit = .ok e) :
    ∃ r, c.read schemaName = .ok r ∧ c.Accounted schemaName resolve refs r.known e := by
  have hpass := pass_of_extract h
  obtain ⟨r, hread⟩ := read_of_pass hpass
  exact ⟨r, hread, accounted_of_read hrefs hnodup hread hpass⟩

def flawedRefs : List RelationRef :=
  [⟨"s", "v", .view⟩, ⟨"s", "t", .table⟩, ⟨"s", "broken", .table⟩, ⟨"s", "w", .materializedView⟩]

def flawedTypes : List TypeRow :=
  [{ name := "mood", schemaName := "s", labels := ["glad", "sad"], comment := some "now @fixed" },
    { name := "price", schemaName := "s", kind := .domain, baseType := some "NUMERIC(10, 2)" },
    { name := "blank", schemaName := "s", kind := .domain, baseType := some "" }]

/-- What becomes of the types. -/
def flawedMade : List CustomType :=
  [{ name := "mood", schemaName := "s", labels := ["glad", "sad"],
     remarks := some { description := some "now", fixed := true } },
    { name := "price", schemaName := "s", kind := .domain, baseType := some "numeric" },
    { name := "blank", schemaName := "s", kind := .domain }]

/-- A table with two keys on one column, a table with a key on a column that it does not have, a view
that copies the first table's column, and one that is no query. -/
def flawed : Catalog where
  dialect := .named "postgres"
  relations _ := .ok flawedRefs
  types _ := .ok flawedTypes
  columns _ := .ok [{ name := "id", ordinalPosition := 1 }]
  constraints ref := .ok (
    if ref.name = "t" then
      [{ kind := .foreignKey, columns := ["id"], referredTable := some "u",
         referredColumns := ["a"] },
       { kind := .foreignKey, columns := ["id"], referredTable := some "u",
         referredColumns := ["b"] }]
    else [{ kind := .primaryKey, columns := ["ghost"] }])
  comment _ := .ok none
  definition ref := .ok (some (if ref.name = "v" then "SELECT id FROM t" else "DROP TABLE t"))

theorem flawed_accounted : flawedRefs.Nodup ∧
    ∃ (r : Reading) (e : Extraction), flawed.extract "s" true none = .ok e ∧
      flawed.Accounted "s" true flawedRefs r.known e ∧
      e.schema.tables.map Table.ref = [⟨"s", "t", .table⟩] ∧
      e.schema.types = flawedMade ∧
      e.issues.map (fun x => (x.kind, x.relation, x.column)) =
        [(.ambiguousReference, "s.t", some "id"), (.skippedRelation, "s.broken", none),
          (.degradedView, "s.w", none)] := by
  have hnodup : flawedRefs.Nodup := by decide
  have hvalue : (flawed.extract "s" true none).toOption.map (fun e =>
      (e.schema.tables.map Table.ref, e.issues.map fun x => (x.kind, x.relation, x.column))) =
      some ([⟨"s", "t", .table⟩], [(.ambiguousReference, "s.t", some "id"),
        (.skippedRelation, "s.broken", none), (.degradedView, "s.w", none)]) := by
    decide +kernel
  have htypes : (flawed.extract "s" true none).toOption.map (·.schema.types) = some flawedMade := by
    decide +kernel
  cases he : flawed.extract "s" true none with
  | error f => rw [he] at hvalue; cases hvalue
  | ok e =>
    obtain ⟨r, -, haccounted⟩ := extract_accounted rfl hnodup he
    rw [he] at hvalue htypes
    obtain ⟨htables, hissues⟩ := Prod.mk.inj (Option.some.inj hvalue)
    exact ⟨hnodup, r, e, rfl, haccounted, htables, Option.some.inj htypes, hissues⟩

end Catalog
end SchemaLineage
