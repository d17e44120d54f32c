import SchemaLineage.Proofs.Extraction.Accounting
/-
What following columns adds to a result.

A view that is made from other relations is compared with the one that keeps its own rows.  Once the
traits of its columns and the relations that it reads are erased the two are the same
(`withoutLineage_of_made`), and where there is no analysis nothing has to be erased
(`untraced_of_made`).
-/

namespace SchemaLineage

namespace Column

def withoutTraits (c : Column) : Column :=
  { c with dataType := TypeName.unknown, nullable := true, isPrimary := false, reference := none }

theorem withoutTraits_of_describes {row : ColumnRow} {c : Column} (h : row.Describes c) :
    c.withoutTraits = (untraced row).withoutTraits := by
  obtain ⟨hname, hposition, hdefault, hremarks⟩ := h
  unfold withoutTraits
  rw [hname, hposition, hdefault, hremarks]
  rfl

end Column

namespace View

def withoutLineage (v : View) : View :=
  { v with columns := v.columns.map Column.withoutTraits, dependsOn := [] }

theorem withoutLineage_ofColumns {s : ViewSource} {columns : List Column}
    (h : List.Forall₂ ColumnRow.Describes s.orderedRows columns) :
    (ofColumns s columns).withoutLineage = (untraced s).withoutLineage := by
  have hcolumns : columns.map Column.withoutTraits =
      (s.orderedRows.map Column.untraced).map Column.withoutTraits := by
    rw [List.map_map]
    exact (map_eq_of_forall₂ h fun _ _ hc => (Column.withoutTraits_of_describes hc).symm).symm
  show { ofColumns s columns with columns := columns.map Column.withoutTraits, dependsOn := [] } =
    (untraced s).withoutLineage
  rw [hcolumns]
  rfl

end View

theorem Reading.eq_of_degraded {r : Reading} {dialect : Sql.Language} {w s : ViewSource}
    {issues : List Issue} (h : r.analyzed dialect w = .ok (s, issues))
    (hdegraded : (r.degraded? dialect w).isSome) : s = w := by
  rcases analyzed_ok h with ⟨a, ha, -⟩ | ⟨f, -, hs⟩
  · rw [degraded?, Issue.degraded?, ha] at hdegraded
    cases hdegraded
  · exact hs

namespace Catalog

variable {c : Catalog} {schemaName : String} {refs : List RelationRef} {r : Reading}
  {i : Inventory} {e : Extraction}

namespace Passed

variable {w : ViewSource} {v : View}

theorem withoutLineage_of_made (h : c.Passed schemaName r i e) (hw : w ∈ r.views)
    (hv : i.plainFrom [] w.ref = .ok (some (.view v))) :
    v.withoutLineage = (View.untraced w).withoutLineage := by
  obtain ⟨s, issues, -, hanalyzed, hrun⟩ := h.run_of_made hw hv
  rw [View.eq_ofColumns_of_run hrun,
    View.withoutLineage_ofColumns (View.describes_of_run hrun)]
  -- An analysis tells only which relations are read.
  rcases Reading.analyzed_ok hanalyzed with ⟨a, -, rfl⟩ | ⟨f, -, rfl⟩
  · rfl
  · rfl

theorem untraced_of_made (h : c.Passed schemaName r i e) (hw : w ∈ r.views)
    (hv : i.plainFrom [] w.ref = .ok (some (.view v)))
    (hdegraded : (r.degraded? c.dialect w).isSome) : v = View.untraced w := by
  obtain ⟨s, issues, -, hanalyzed, hrun⟩ := h.run_of_made hw hv
  have hs := Reading.eq_of_degraded hanalyzed hdegraded
  subst hs
  exact View.untraced_of_run hrun (h.sorted.unanalyzed _ hw)

end Passed

/-- `e` has all that `plain` has, which follows no columns, and differs from it by what is said of
views: the issues, the relations that they read and the traits of their columns.  Views without an
analysis are the same in both. -/
structure AddsLineage (c : Catalog) (refs : List RelationRef) (known : KnownRelations)
    (plain e : Extraction) : Prop where
  name : plain.schema.name = e.schema.name
  tables : plain.schema.tables = e.schema.tables
  types : plain.schema.types = e.schema.types
  issues : plain.issues = e.issues.filter fun x => x.kind ≠ .degradedView
  listed : e.schema.views.map View.ref = viewsOf refs
  views : plain.schema.views.map View.withoutLineage = e.schema.views.map View.withoutLineage
  degraded : e.issuesOf .degradedView = (viewsOf refs).filterMap (c.degraded? known)
  unchanged : ∀ (k : Nat) (v : View), e.schema.views[k]? = some v →
    (c.degraded? known v.ref).isSome → plain.schema.views[k]? = some v

/-- A pass that follows columns finds what one that does not finds, and adds only lineage to it. -/
theorem pass_adds_lineage (hrefs : c.relations schemaName = .ok refs) (hnodup : refs.Nodup)
    (h : c.pass schemaName true = .ok e) :
    ∃ r plain, c.read schemaName = .ok r ∧ c.pass schemaName false = .ok plain ∧
      c.AddsLineage refs r.known plain e := by
  obtain ⟨r, hread⟩ := read_of_pass h
  obtain ⟨i, hpassed⟩ := passed_of_read hread h
  obtain ⟨hlisted, -⟩ := listed_of_read hrefs hread
  have haccounted := accounted_of_read hrefs hnodup hread h
  have hmade := hpassed.made (hlisted.views_nodup hnodup)
  obtain ⟨views, issues, hviews, rfl⟩ := extraction_of_read hread h
  have hplain : c.pass schemaName false =
      .ok (r.extraction schemaName (r.views.map View.untraced) []) := by
    rw [pass_of_read hread]
    rfl
  have hkind : ∀ x ∈ issues, x.kind = .degradedView := by
    rw [Reading.issues_of_views hviews, hlisted.degraded]
    exact fun x hx => kind_of_degraded hx
  refine ⟨r, _, hread, hplain, ?_⟩
  constructor
  case name => rfl
  case tables => rfl
  case types => rfl
  case issues =>
    rw [issues_not_degraded hkind]
    exact List.append_nil _
  case listed => exact haccounted.views
  case views =>
    show (r.views.map View.untraced).map View.withoutLineage = _
    rw [List.map_map]
    exact map_eq_of_forall₂ hmade fun w v hv => (hpassed.withoutLineage_of_made hv.1 hv.2).symm
  case degraded => exact haccounted.degraded
  case unchanged =>
    intro k v hv hsome
    obtain ⟨w, hw, hmem, hmadev⟩ := getElem?_of_forall₂ hmade.flip hv
    have hview : c.view w.ref = .ok w := by
      obtain ⟨ref, -, hview⟩ := exists_of_mem_right hlisted.views hmem
      rw [(view_ref hview).1]
      exact hview
    have hdegraded : (r.degraded? c.dialect w).isSome := by
      rw [← degraded?_of_view hview, ← hpassed.ref_of_made hmem hmadev]
      exact hsome
    show (r.views.map View.untraced)[k]? = some v
    rw [List.getElem?_map, hw, hpassed.untraced_of_made hmem hmadev hdegraded]
    rfl

def halfReadRefs : List RelationRef :=
  [⟨"s", "t", .table⟩, ⟨"s", "v", .view⟩, ⟨"s", "w", .view⟩]

/-- A table, a view that copies its column, and a view that is no query. -/
def halfRead : Catalog where
  dialect := .named "postgres"
  relations _ := .ok halfReadRefs
  types _ := .ok []
  columns ref := .ok [{ name := "id", ordinalPosition := 1, isNotNull := !ref.isView }]
  constraints _ := .ok []
  comment _ := .ok none
  definition ref := .ok (some (if ref.name = "v" then "SELECT id FROM t" else "VACUUM t"))

theorem halfRead_adds_lineage : halfReadRefs.Nodup ∧
    ∃ (r : Reading) (plain e : Extraction), halfRead.pass "s" true = .ok e ∧
      halfRead.pass "s" false = .ok plain ∧ halfRead.AddsLineage halfReadRefs r.known plain e ∧
      e.schema.views.map (·.dependsOn) = [[⟨"s", "t", .table⟩], []] ∧
      e.schema.views.map (·.columns.map (·.nullable)) = [[false], [true]] := by
  have hnodup : halfReadRefs.Nodup := by decide
  have hvalue : (halfRead.pass "s" true).toOption.map (fun e =>
      (e.schema.views.map (·.dependsOn), e.schema.views.map (·.columns.map (·.nullable)))) =
      some ([[⟨"s", "t", .table⟩], []], [[false], [true]]) := by
    decide +kernel
  cases he : halfRead.pass "s" true with
  | error f => rw [he] at hvalue; cases hvalue
  | ok e =>
    obtain ⟨r, plain, -, hplain, hadds⟩ := pass_adds_lineage rfl hnodup he
    rw [he] at hvalue
    obtain ⟨hreads, hnullable⟩ := Prod.mk.inj (Option.some.inj hvalue)
    exact ⟨hnodup, r, plain, e, rfl, hplain, hadds, hreads, hnullable⟩

end Catalog
end SchemaLineage
