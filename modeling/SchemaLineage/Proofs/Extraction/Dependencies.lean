import SchemaLineage.Proofs.Extraction.Interference
/-
What the views of a result depend on.

A view depends on the relations that its definition names, each once, and a name denotes only what
is known.  A pass knows just the relations that its result holds (`Passed.known_refs`); a skipped
table is in neither.  Before views are made they are searched for a circle in what they declare to
read, and a walk along the dependencies of a result that comes back to its start consists of such
declarations alone, since a table depends on nothing (`transGen_declares`).
-/

namespace SchemaLineage

theorem KnownRelations.mem_of_columns? {known : KnownRelations} {ref : RelationRef}
    {names : List String} (h : known.columns? ref = some names) : ref ∈ known.map (·.1) := by
  obtain ⟨before, after, heq, -⟩ := List.lookup_eq_some_iff.mp h
  rw [heq, List.map_append]
  exact List.mem_append_right _ List.mem_cons_self

namespace Sql
namespace Select

variable (q : Select) (known : KnownRelations) (home : String)

theorem sources_nodup : (q.analysis known home).sources.Nodup := nodup_eraseDups _

/-- A relation that a query reads is a known one, be it named in the `FROM` clause or elsewhere. -/
theorem sources_known : (q.analysis known home).sources ⊆ known.map (·.1) := by
  intro ref href
  have hmem : ref ∈ (q.sources ⟨known, home, q.cteNames⟩).filterMap (·.relation) ++
      q.tables.filterMap fun t => (Scope.mk known home q.cteNames).relation? t.1 t.2 :=
    List.mem_eraseDups.mp href
  rcases List.mem_append.mp hmem with hscope | hnamed
  · obtain ⟨source, hsource, hrelation⟩ := List.mem_filterMap.mp hscope
    obtain ⟨names, hnames, -⟩ := q.backed ⟨known, home, q.cteNames⟩ source hsource ref hrelation
    exact KnownRelations.mem_of_columns? hnames
  · obtain ⟨t, -, ht⟩ := List.mem_filterMap.mp hnamed
    unfold Scope.relation? at ht
    split at ht
    · cases ht
    · exact KnownRelations.mem_of_lookup ht

end Select
end Sql

namespace Reading

variable {r : Reading} {dialect : Sql.Language} {v s : ViewSource} {issues : List Issue}

theorem sources_of_analyzed (h : r.analyzed dialect v = .ok (s, issues))
    (hv : v.analysis = none) : s.sources.Nodup ∧ s.sources ⊆ r.known.map (·.1) := by
  rcases analyzed_ok h with ⟨a, ha, rfl⟩ | ⟨f, -, rfl⟩
  · obtain ⟨q, rfl⟩ := analyzeView_ok ha
    exact ⟨q.sources_nodup _ _, q.sources_known _ _⟩
  · have hnone : s.sources = [] := by rw [ViewSource.sources, hv]; rfl
    rw [hnone]
    exact ⟨List.nodup_nil, List.nil_subset _⟩

end Reading

/-! ## Walks -/

namespace Inventory

variable {i : Inventory} {ref other : RelationRef}

theorem declares_of_reads {next : RelationRef} (h : i.Reads ref other)
    (hnext : i.Reads other next) : i.Declares ref other := by
  obtain ⟨s, hs, hother⟩ := h
  obtain ⟨s', hs', -⟩ := hnext
  exact ⟨s, hs, hother, by rw [hs']; rfl⟩

/-- A walk that could go on leads over views alone. -/
theorem transGen_declares {next : RelationRef} (h : Relation.TransGen i.Reads ref other)
    (hnext : i.Reads other next) : Relation.TransGen i.Declares ref other := by
  induction h generalizing next with
  | single h => exact .single (declares_of_reads h hnext)
  | tail _ h ih => exact (ih h).tail (declares_of_reads h hnext)

theorem not_reads_self (h : ¬ ∃ ref, Relation.TransGen i.Declares ref ref) :
    ¬ Relation.TransGen i.Reads ref ref := by
  intro hself
  obtain ⟨other, hother, -⟩ := Relation.TransGen.head'_iff.mp hself
  exact h ⟨ref, transGen_declares hself hother⟩

end Inventory

/-! ## Results -/

namespace Schema

/-- The tables and views of a schema, as they are referred to. -/
def refs (s : Schema) : List RelationRef := s.tables.map Table.ref ++ s.views.map View.ref

/-- A reference denotes a relation of its name and kind. -/
def Holds (s : Schema) (ref : RelationRef) : Prop :=
  match ref.kind with
  | .table => ∃ t ∈ s.tables, t.schemaName = ref.schemaName ∧ t.name = ref.name
  | .view => ∃ v ∈ s.views,
      v.schemaName = ref.schemaName ∧ v.name = ref.name ∧ v.isMaterialized = false
  | .materializedView => ∃ v ∈ s.views,
      v.schemaName = ref.schemaName ∧ v.name = ref.name ∧ v.isMaterialized = true

theorem holds_of_mem_refs {s : Schema} {ref : RelationRef} (h : ref ∈ s.refs) : s.Holds ref := by
  rcases List.mem_append.mp h with h | h
  · obtain ⟨t, ht, rfl⟩ := List.mem_map.mp h
    exact ⟨t, ht, rfl, rfl⟩
  · obtain ⟨v, hv, rfl⟩ := List.mem_map.mp h
    cases hm : v.isMaterialized with
    | true =>
      have href : v.ref = ⟨v.schemaName, v.name, .materializedView⟩ := by rw [View.ref, if_pos hm]
      rw [href]
      exact ⟨v, hv, rfl, rfl, hm⟩
    | false =>
      have href : v.ref = ⟨v.schemaName, v.name, .view⟩ := by
        rw [View.ref, hm]
        rfl
      rw [href]
      exact ⟨v, hv, rfl, rfl, hm⟩

end Schema

namespace Catalog

variable {c : Catalog} {schemaName : String} {refs : List RelationRef} {r : Reading}
  {i : Inventory} {e : Extraction}

theorem Listed.built_ref (h : c.Listed refs r) {t : RelationRef × Table} (ht : t ∈ r.built) :
    t.2.ref = t.1 :=
  h.table_ref_of_built (Reading.mem_built ht) t.2 rfl

theorem Accounted.refs_nodup {resolve : Bool} {known : KnownRelations}
    (h : c.Accounted schemaName resolve refs known e) (hnodup : refs.Nodup) :
    e.schema.refs.Nodup := by
  rw [Schema.refs, h.kept, h.views]
  refine List.nodup_append.mpr ⟨(hnodup.filter _).filter _, hnodup.filter _, ?_⟩
  intro a ha b hb hab
  have htable := (List.mem_filter.mp (List.mem_filter.mp ha).1).2
  have hview := (List.mem_filter.mp hb).2
  rw [hab, hview] at htable
  cases htable

namespace Passed

/-- The relations that definitions may speak of are those of the result. -/
theorem known_refs (h : c.Passed schemaName r i e) (hlisted : c.Listed refs r)
    (hviews : e.schema.views.map View.ref = viewsOf refs) (hnodup : e.schema.refs.Nodup) :
    r.known.map (·.1) = e.schema.refs := by
  have htables : r.built.map (·.1) = e.schema.tables.map Table.ref := by
    rw [h.tables, List.map_map]
    exact List.map_congr_left fun t ht => (hlisted.built_ref ht).symm
  have hkeys : (r.built.map (fun t => (t.1, t.2.columns.map (·.name))) ++
      r.views.map fun v => (v.ref, v.columnNames)).map (·.1) = e.schema.refs := by
    rw [Schema.refs, hviews, ← hlisted.views_refs, ← htables, List.map_append, List.map_map,
      List.map_map]
    rfl
  rw [← hkeys] at hnodup
  rw [Reading.known, keyed_of_nodup hnodup, hkeys]

/-- What a view of the result depends on is what its source reads. -/
theorem reads_of_dependsOn (h : c.Passed schemaName r i e)
    (hnodup : (r.views.map (·.ref)).Nodup) {ref other : RelationRef}
    (hdepends : e.schema.DependsOn ref other) : i.Reads ref other := by
  obtain ⟨v, hv, rfl, hother⟩ := hdepends
  obtain ⟨w, -, hw, hmade⟩ := exists_of_mem_right (h.made hnodup) hv
  obtain ⟨s, issues, hs, -, hrun⟩ := h.run_of_made hw hmade
  rw [View.eq_ofColumns_of_run hrun] at hother
  rw [h.ref_of_made hw hmade]
  exact ⟨s, hs, hother⟩

theorem sources_of_view (h : c.Passed schemaName r i e)
    (hnodup : (r.views.map (·.ref)).Nodup) {v : View} (hv : v ∈ e.schema.views) :
    v.dependsOn.Nodup ∧ v.dependsOn ⊆ r.known.map (·.1) := by
  obtain ⟨w, -, hw, hmade⟩ := exists_of_mem_right (h.made hnodup) hv
  obtain ⟨s, issues, -, hanalyzed, hrun⟩ := h.run_of_made hw hmade
  have hsources : v.dependsOn = s.sources := by rw [View.eq_ofColumns_of_run hrun]; rfl
  rw [hsources]
  exact Reading.sources_of_analyzed hanalyzed (h.sorted.unanalyzed w hw)

theorem not_declares_self (h : c.Passed schemaName r i e) :
    ¬ ∃ ref, Relation.TransGen i.Declares ref ref := by
  obtain ⟨made, hmade, -⟩ := h.views
  rw [Inventory.resolveAll_on_fst Inventory.Sound.nil] at hmade
  rw [← Inventory.plainAll_error_iff h.declared]
  rintro ⟨cycle, hcycle⟩
  rw [hmade] at hcycle
  cases hcycle

end Passed

/-- Every relation on which a view of a result depends is a table or a view of the result, named
once, and no view depends on itself, be it through other views. -/
theorem extract_dependencies {limit : Option Seconds} (hrefs : c.relations schemaName = .ok refs)
    (hnodup : refs.Nodup) (h : c.extract schemaName true limit = .ok e) :
    (∀ v ∈ e.schema.views, v.dependsOn.Nodup ∧ ∀ ref ∈ v.dependsOn, e.schema.Holds ref) ∧
      ∀ ref, ¬ Relation.TransGen e.schema.DependsOn ref ref := by
  have hpass := pass_of_extract h
  obtain ⟨r, hread⟩ := read_of_pass hpass
  obtain ⟨i, hpassed⟩ := passed_of_read hread hpass
  obtain ⟨hlisted, -⟩ := listed_of_read hrefs hread
  have hviews := hlisted.views_nodup hnodup
  have haccounted := accounted_of_read hrefs hnodup hread hpass
  have hknown := hpassed.known_refs hlisted haccounted.views (haccounted.refs_nodup hnodup)
  constructor
  · intro v hv
    obtain ⟨honce, hread⟩ := hpassed.sources_of_view hviews hv
    rw [hknown] at hread
    exact ⟨honce, fun ref href => Schema.holds_of_mem_refs (hread href)⟩
  · intro ref hself
    have hreads : Relation.TransGen i.Reads ref ref :=
      Relation.TransGen.mono (fun _ _ => hpassed.reads_of_dependsOn hviews) _ _ hself
    exact Inventory.not_reads_self hpassed.not_declares_self hreads

def nestedRefs : List RelationRef :=
  [⟨"s", "w", .materializedView⟩, ⟨"s", "v", .view⟩, ⟨"s", "t", .table⟩, ⟨"s", "broken", .table⟩]

/-- A materialized view over a view over a table, and a table that is skipped. -/
def nested : Catalog where
  dialect := .named "postgres"
  relations _ := .ok nestedRefs
  types _ := .ok []
  columns _ := .ok [{ name := "id", ordinalPosition := 1 }]
  constraints ref := .ok (
    if ref.name = "broken" then [{ kind := .primaryKey, columns := ["ghost"] }] else [])
  comment _ := .ok none
  definition ref := .ok (some (if ref.name = "v" then "SELECT id FROM T" else "SELECT id FROM v"))

theorem nested_dependencies : nestedRefs.Nodup ∧
    ∃ e, nested.extract "s" true none = .ok e ∧
      e.schema.views.map (·.dependsOn) = [[⟨"s", "v", .view⟩], [⟨"s", "t", .table⟩]] ∧
      (∀ v ∈ e.schema.views, ∀ ref ∈ v.dependsOn, e.schema.Holds ref) ∧
      ¬ Relation.TransGen e.schema.DependsOn ⟨"s", "v", .view⟩ ⟨"s", "v", .view⟩ := by
  have hnodup : nestedRefs.Nodup := by decide
  have hvalue : (nested.extract "s" true none).toOption.map (fun e =>
      e.schema.views.map (·.dependsOn)) =
        some [[⟨"s", "v", .view⟩], [⟨"s", "t", .table⟩]] := by decide +kernel
  cases he : nested.extract "s" true none with
  | error f => rw [he] at hvalue; cases hvalue
  | ok e =>
    obtain ⟨hholds, hself⟩ := extract_dependencies rfl hnodup he
    rw [he] at hvalue
    exact ⟨hnodup, e, rfl, Option.some.inj hvalue, fun v hv => (hholds v hv).2, hself _⟩

end Catalog
end SchemaLineage
