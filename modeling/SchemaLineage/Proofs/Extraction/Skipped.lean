import SchemaLineage.Proofs.Extraction.Interference
/-
A table that is skipped leaves nothing behind but its issue.

The rows of such a table are read and come to no table, so neither the names that definitions may
speak of nor the relations that views are made from include it.  A reading of the catalog with the
table and one without it differ in a single entry (`read_alike`), from which only the list of issues
is ever made; all else, failures included, is the same computation.
-/

namespace SchemaLineage

section

variable {α β : Type}

/-- The first list is the second one with an element put in somewhere. -/
def Inserted (a : α) (as bs : List α) : Prop :=
  ∃ before after, as = before ++ a :: after ∧ bs = before ++ after

theorem Inserted.cons {a : α} {as bs : List α} (h : Inserted a as bs) (b : α) :
    Inserted a (b :: as) (b :: bs) := by
  obtain ⟨before, after, rfl, rfl⟩ := h
  exact ⟨b :: before, after, rfl, rfl⟩

theorem Inserted.filter {a : α} {as bs : List α} (h : Inserted a as bs) {p : α → Bool}
    (ha : p a = true) : Inserted a (as.filter p) (bs.filter p) := by
  obtain ⟨before, after, rfl, rfl⟩ := h
  refine ⟨before.filter p, after.filter p, ?_, List.filter_append ..⟩
  rw [List.filter_append, List.filter_cons_of_pos ha]

theorem Inserted.filter_eq {a : α} {as bs : List α} (h : Inserted a as bs) {p : α → Bool}
    (ha : ¬ p a = true) : as.filter p = bs.filter p := by
  obtain ⟨before, after, rfl, rfl⟩ := h
  rw [List.filter_append, List.filter_append, List.filter_cons_of_neg ha]

theorem Inserted.filterMap_eq {a : α} {as bs : List α} (h : Inserted a as bs) {f : α → Option β}
    (ha : f a = none) : as.filterMap f = bs.filterMap f := by
  obtain ⟨before, after, rfl, rfl⟩ := h
  rw [List.filterMap_append, List.filterMap_append, List.filterMap_cons_none ha]

/-- What is made of the other elements may be made in another way that agrees on them. -/
theorem Inserted.map {a : α} {as bs : List α} (h : Inserted a as bs) {f g : α → β}
    (hfg : ∀ b ∈ bs, f b = g b) : Inserted (f a) (as.map f) (bs.map g) := by
  obtain ⟨before, after, rfl, rfl⟩ := h
  refine ⟨before.map f, after.map f, ?_, ?_⟩
  · rw [List.map_append, List.map_cons]
  · rw [← List.map_append]
    exact (List.map_congr_left hfg).symm

theorem Inserted.flatMap {a : α} {as bs : List α} (h : Inserted a as bs) {f : α → List β} {b : β}
    (ha : f a = [b]) (more : List β) : Inserted b (as.flatMap f ++ more) (bs.flatMap f ++ more) := by
  obtain ⟨before, after, rfl, rfl⟩ := h
  refine ⟨before.flatMap f, after.flatMap f ++ more, ?_, ?_⟩
  · rw [List.flatMap_append, List.flatMap_cons, ha, List.append_assoc, List.singleton_append,
      List.cons_append]
  · rw [List.flatMap_append, List.append_assoc]

theorem inserted_erase [DecidableEq α] {a : α} {as : List α} (h : a ∈ as) :
    Inserted a as (as.erase a) := by
  obtain ⟨before, after, -, has, herase⟩ := List.exists_erase_eq h
  exact ⟨before, after, has, herase⟩

end

/-! ## Readings -/

namespace Reply

variable {α : Type}

/-- An answer that is there does not keep the others from failing, or from being waited for. -/
theorem together_alike {xs ys : List (Reply α)} {a : α} (h : Inserted (.ok a) xs ys) :
    Alike (Inserted a) (together xs) (together ys) := by
  have hmapM : Alike (Inserted a) (xs.mapM id) (ys.mapM id) := by
    obtain ⟨before, after, rfl, rfl⟩ := h
    induction before with
    | nil =>
      rw [List.nil_append, List.nil_append, List.mapM_cons]
      show Alike (Inserted a) (after.mapM id >>= fun as => pure (a :: as)) (after.mapM id)
      cases after.mapM id with
      | error e => exact .error e
      | ok as => exact .ok ⟨[], as, rfl, rfl⟩
    | cons x before ih =>
      rw [List.cons_append, List.cons_append, List.mapM_cons, List.mapM_cons]
      refine .bind_same _ fun b _ => ih.bind fun as bs hab => ?_
      exact .ok (hab.cons b)
  have hsilent : xs.any isSilent = ys.any isSilent := by
    obtain ⟨before, after, rfl, rfl⟩ := h
    simp [isSilent]
  unfold together
  rw [hsilent]
  split
  · exact .error _
  · exact hmapM

end Reply

/-- The same reading, with the rows of one more table, which contradict each other. -/
structure Reading.Skips (x : RelationRef) (m : Mismatch) (r r' : Reading) : Prop where
  tables : Inserted (x, .error m) r.tables r'.tables
  views : r.views = r'.views
  types : r.types = r'.types

namespace Reading

variable {x : RelationRef} {m : Mismatch} {r r' : Reading}

theorem Skips.built (h : Skips x m r r') : r.built = r'.built :=
  congrArg keyed (h.tables.filterMap_eq rfl)

/-- What is made of views depends on the tables that could be built, and on nothing else of
tables. -/
theorem viewsWithIssues_congr (hbuilt : r.built = r'.built) (hviews : r.views = r'.views)
    (dialect : Sql.Language) (resolve : Bool) :
    r.viewsWithIssues dialect resolve = r'.viewsWithIssues dialect resolve := by
  have hknown : r.known = r'.known := by rw [known, known, hbuilt, hviews]
  have hanalyzed : r.analyzed dialect = r'.analyzed dialect := by
    funext v
    rw [analyzed, analyzed, hknown]
  have hresolved : r.resolvedViews = r'.resolvedViews := by
    funext views
    rw [resolvedViews, resolvedViews, hbuilt]
  rw [viewsWithIssues, viewsWithIssues, hanalyzed, hresolved, hviews]

theorem Skips.extraction (h : Skips x m r r') (schemaName : String) (views : List View)
    (issues : List Issue) :
    (r.extraction schemaName views issues).schema = (r'.extraction schemaName views issues).schema ∧
      Inserted (Issue.skipped x m) (r.extraction schemaName views issues).issues
        (r'.extraction schemaName views issues).issues := by
  constructor
  · rw [Reading.extraction, Reading.extraction, h.built, h.types]
  · exact h.tables.flatMap rfl issues

end Reading

/-! ## Passes -/

/-- What a pass that fails is given up with, when there is a limit. -/
def ExtractionError.within (schemaName : String) (limit : Option Seconds) :
    ExtractionError → ExtractionError
  | .catalog .silent =>
    match limit.filter Seconds.isLimit with
    | some s => .timeout schemaName s
    | none => .catalog .silent
  | e => e

namespace Catalog

variable {c c' : Catalog} {schemaName : String} {refs : List RelationRef} {x : RelationRef}
  {m : Mismatch}

theorem extract_eq {resolve : Bool} {limit : Option Seconds} :
    c.extract schemaName resolve limit =
      (c.pass schemaName resolve).mapError (.within schemaName limit) := by
  unfold extract
  split
  · rename_i s hpass hlimit
    rw [hpass]
    simp only [Except.mapError, ExtractionError.within, hlimit]
  · rename_i hnot
    cases hpass : c.pass schemaName resolve with
    | ok e => rfl
    | error f =>
      have hkept : ExtractionError.within schemaName limit f = f := by
        unfold ExtractionError.within
        split
        · cases hlimit : limit.filter Seconds.isLimit with
          | none => rfl
          | some s => exact absurd hlimit (hnot s hpass)
        · rfl
      rw [Except.mapError, hkept]

theorem table_of_mismatch? (h : c.mismatch? x = some m) : c.table x = .ok (x, .error m) := by
  obtain ⟨outcome, houtcome, hm⟩ := Option.bind_eq_some_iff.mp h
  cases outcome with
  | ok table => cases hm
  | error m' =>
    cases hm
    exact outcome?_eq_some_iff.mp houtcome

section

variable (hsame : c.AgreeBut x c') (hnodup : refs.Nodup) (hx : x ∈ tablesOf refs)

include hsame hnodup hx

theorem tables_inserted (hm : c.mismatch? x = some m) :
    Inserted (.ok (x, .error m)) ((tablesOf refs).map c.table)
      ((tablesOf (refs.erase x)).map c'.table) := by
  obtain ⟨hmem, htable⟩ := List.mem_filter.mp hx
  have hlisted : Inserted x (tablesOf refs) (tablesOf (refs.erase x)) :=
    (inserted_erase hmem).filter htable
  rw [← table_of_mismatch? hm]
  refine hlisted.map fun ref href => hsame.table fun heq => ?_
  rw [heq] at href
  exact hnodup.not_mem_erase (List.mem_filter.mp href).1

theorem views_same : (viewsOf refs).map c.view = (viewsOf (refs.erase x)).map c'.view := by
  obtain ⟨hmem, htable⟩ := List.mem_filter.mp hx
  have hlisted : viewsOf refs = viewsOf (refs.erase x) :=
    (inserted_erase hmem).filter_eq (by simpa using htable)
  rw [hlisted]
  refine List.map_congr_left fun ref href => hsame.view fun heq => ?_
  rw [heq] at href
  exact hnodup.not_mem_erase (List.mem_filter.mp href).1

/-- A catalog with the table and one without it are read alike. -/
theorem read_alike (htypes : c.types schemaName = c'.types schemaName)
    (hrefs : c.relations schemaName = .ok refs)
    (hrefs' : c'.relations schemaName = .ok (refs.erase x)) (hm : c.mismatch? x = some m) :
    Alike (Reading.Skips x m) (c.read schemaName) (c'.read schemaName) := by
  have hviews := views_same hsame hnodup hx
  have hread : c.read schemaName = c.types schemaName >>= fun types =>
      Reply.together ((tablesOf refs).map c.table) >>= fun tables =>
      Reply.together ((viewsOf refs).map c.view) >>= fun views =>
      return { tables, views, types } := by
    rw [read, hrefs]
    rfl
  have hread' : c'.read schemaName = c.types schemaName >>= fun types =>
      Reply.together ((tablesOf (refs.erase x)).map c'.table) >>= fun tables =>
      Reply.together ((viewsOf refs).map c.view) >>= fun views =>
      return { tables, views, types } := by
    rw [read, hrefs', htypes, hviews]
    rfl
  rw [hread, hread']
  refine .bind_same _ fun types _ => ?_
  refine (Reply.together_alike (tables_inserted hsame hnodup hx hm)).bind fun ts ts' hts => ?_
  refine .bind_same _ fun views _ => ?_
  exact .ok ⟨hts, rfl, rfl⟩

end

/-- The same result but for one issue more. -/
structure ReportsSkipped (x : RelationRef) (m : Mismatch) (e e' : Extraction) : Prop where
  schema : e.schema = e'.schema
  issues : Inserted (Issue.skipped x m) e.issues e'.issues

theorem pass_alike (h : Alike (Reading.Skips x m) (c.read schemaName) (c'.read schemaName))
    (hdialect : c.dialect = c'.dialect) (resolve : Bool) :
    Alike (ReportsSkipped x m) (c.pass schemaName resolve) (c'.pass schemaName resolve) := by
  generalize hread : c.read schemaName = reading at h
  generalize hread' : c'.read schemaName = reading' at h
  cases h with
  | error f =>
    rw [pass_of_unread hread, pass_of_unread hread']
    exact .error _
  | @ok r r' hskips =>
    rw [pass_of_read hread, pass_of_read hread', ← hdialect,
      Reading.viewsWithIssues_congr hskips.built hskips.views]
    cases r'.viewsWithIssues c.dialect resolve with
    | error f => exact .error f
    | ok p =>
      obtain ⟨hschema, hissues⟩ := hskips.extraction schemaName p.1 p.2
      exact .ok ⟨hschema, hissues⟩

/-- How a pass ends does not depend on a table that is skipped: with and without it the pass ends
with the same error, or with results that differ in the one issue that reports it. -/
theorem extract_without_skipped {limit : Option Seconds} {resolve : Bool}
    (hsame : c.AgreeBut x c') (htypes : c.types schemaName = c'.types schemaName)
    (hrefs : c.relations schemaName = .ok refs)
    (hrefs' : c'.relations schemaName = .ok (refs.erase x)) (hnodup : refs.Nodup)
    (hx : x ∈ tablesOf refs) (hm : c.mismatch? x = some m) :
    Alike (ReportsSkipped x m) (c.extract schemaName resolve limit)
      (c'.extract schemaName resolve limit) := by
  have hread := read_alike hsame hnodup hx htypes hrefs hrefs' hm
  rw [extract_eq, extract_eq]
  exact (pass_alike hread hsame.dialect resolve).mapError _

def spelledRefs : List RelationRef := [⟨"s", "t", .table⟩, ⟨"s", "T", .table⟩, ⟨"s", "v", .view⟩]

/-- Two tables whose names differ in case, the second with a key over a column that it does not
have, and a view that names the second one.  What is listed may vary. -/
def spelled (listed : List RelationRef) : Catalog where
  dialect := .named "postgres"
  relations _ := .ok listed
  types _ := .ok []
  columns _ := .ok [{ name := "id", ordinalPosition := 1 }]
  constraints ref := .ok (
    if ref.name = "T" then [{ kind := .primaryKey, columns := ["ghost"] }] else [])
  comment _ := .ok none
  definition _ := .ok (some "SELECT id FROM T")

theorem spelled_without_skipped : spelledRefs.Nodup ∧ ⟨"s", "T", .table⟩ ∈ tablesOf spelledRefs ∧
    ∃ m e e', (spelled spelledRefs).mismatch? ⟨"s", "T", .table⟩ = some m ∧
      (spelled spelledRefs).extract "s" true none = .ok e ∧
      (spelled (spelledRefs.erase ⟨"s", "T", .table⟩)).extract "s" true none = .ok e' ∧
      ReportsSkipped ⟨"s", "T", .table⟩ m e e' ∧
      e'.schema.views.map (·.dependsOn) = [[⟨"s", "t", .table⟩]] := by
  have hnodup : spelledRefs.Nodup := by decide
  have hx : ⟨"s", "T", .table⟩ ∈ tablesOf spelledRefs := by decide
  have hsame : ∀ listed, (spelled spelledRefs).AgreeBut ⟨"s", "T", .table⟩ (spelled listed) :=
    fun _ => ⟨rfl, fun _ _ => rfl, fun _ _ => rfl, fun _ _ => rfl, fun _ _ => rfl⟩
  have hmismatch : ((spelled spelledRefs).mismatch? ⟨"s", "T", .table⟩).isSome := by decide +kernel
  have hvalue : ((spelled (spelledRefs.erase ⟨"s", "T", .table⟩)).extract "s" true none).toOption.map
      (fun e => e.schema.views.map (·.dependsOn)) = some [[⟨"s", "t", .table⟩]] := by
    decide +kernel
  obtain ⟨m, hm⟩ := Option.isSome_iff_exists.mp hmismatch
  have halike : Alike (ReportsSkipped ⟨"s", "T", .table⟩ m)
      ((spelled spelledRefs).extract "s" true none)
      ((spelled (spelledRefs.erase ⟨"s", "T", .table⟩)).extract "s" true none) :=
    extract_without_skipped (hsame _) rfl rfl rfl hnodup hx hm
  generalize (spelled spelledRefs).extract "s" true none = whole at halike
  cases he' : (spelled (spelledRefs.erase ⟨"s", "T", .table⟩)).extract "s" true none with
  | error f => rw [he'] at hvalue; cases hvalue
  | ok e' =>
    rw [he'] at hvalue halike
    cases halike with
    | @ok e _ hreports =>
      exact ⟨hnodup, hx, m, e, e', hm, rfl, rfl, hreports, Option.some.inj hvalue⟩

end Catalog
end SchemaLineage
