import SchemaLineage.Proofs.Extraction.Dependencies
import SchemaLineage.Proofs.View.References
/-
What can be relied on in every analysis.

The relations of an analysis are known ones, each once, and those that the tables of the `FROM`
clause denote stand first (`Select.fromTables` lists these tables without a scope).  Each item of
the `SELECT` clause has its own projections, and what they follow is among the relations of the
analysis; a column that is copied is one that its relation has, the one that the name in the item
denotes there (`Projection.Backs`).
-/

namespace SchemaLineage

section MatchName

variable {name c : String} {candidates : List String}

theorem matchName_of_mem (h : name ∈ candidates) : matchName name candidates = some name := if_pos h

theorem sameFolded_of_matchName (h : matchName name candidates = some c) :
    Text.sameFolded c name = true := by
  unfold matchName at h
  split at h
  · cases h
    exact Text.sameFolded_refl _
  · split at h
    · rename_i hc
      cases h
      have hmem : c ∈ candidates.filter fun d => Text.sameFolded d name := by
        rw [hc]
        exact List.mem_cons_self
      exact (List.mem_filter.mp hmem).2
    · cases h

end MatchName

/-- A projection of an item follows only relations of the analysis.  A column that it copies is
named in the item, perhaps in another case if the relation has none of that very name. -/
def Projection.Backs (known : KnownRelations) (sources : List RelationRef) (item : Sql.Expr) :
    Projection → Prop
  | .direct ref column _ => ref ∈ sources ∧
    ∃ qualifier name names, item.bare = .column qualifier name ∧
      known.columns? ref = some names ∧ column ∈ names ∧ Text.sameFolded column name = true ∧
      (name ∈ names → column = name)
  | .wildcard (some ref) => item.isStar = true ∧ ref ∈ sources
  | .wildcard none => item.isStar = true
  | .untraced _ => True

namespace Projection

variable {known : KnownRelations} {sources : List Source} {refs : List RelationRef}
  {item : Sql.Expr}

theorem backs_wildcard {relation : Option RelationRef} (hstar : item.isStar = true)
    (hrefs : ∀ ref, relation = some ref → ref ∈ refs) :
    (wildcard relation).Backs known refs item := by
  cases relation with
  | none => exact hstar
  | some ref => exact ⟨hstar, hrefs ref rfl⟩

theorem Copies.backs {name : String} {qualifier : Option String} {p : Projection}
    (h : p.Copies sources name) (hitem : item.bare = .column qualifier name)
    (hbacked : ∀ s ∈ sources, s.Backed known)
    (hrefs : ∀ s ∈ sources, ∀ ref, s.relation = some ref → ref ∈ refs) :
    p.Backs known refs item := by
  cases p with
  | direct ref column outputName =>
    obtain ⟨s, hs, hrelation, names, hnames, hmatch⟩ := h
    obtain ⟨names', hknown, hnames'⟩ := hbacked s hs ref hrelation
    rw [hnames] at hnames'
    cases hnames'
    refine ⟨hrefs s hs ref hrelation, qualifier, name, names, hitem, hknown,
      mem_of_matchName hmatch, sameFolded_of_matchName hmatch, fun hmem => ?_⟩
    rw [matchName_of_mem hmem] at hmatch
    exact (Option.some.inj hmatch).symm
  | wildcard ref => exact h.elim
  | untraced outputName => trivial

end Projection

namespace Sql

theorem projections_back {known : KnownRelations} {sources : List Source}
    {refs : List RelationRef} (explicit : List String) (item : Expr)
    (hbacked : ∀ s ∈ sources, s.Backed known)
    (hrefs : ∀ s ∈ sources, ∀ ref, s.relation = some ref → ref ∈ refs) :
    ∀ p ∈ item.projections sources explicit, p.Backs known refs item := by
  intro p hp
  unfold Expr.projections at hp
  split at hp
  · obtain ⟨s, hs, rfl⟩ := List.mem_map.mp hp
    exact Projection.backs_wildcard rfl (hrefs s hs)
  · rename_i q
    rw [List.mem_singleton.mp hp]
    refine Projection.backs_wildcard rfl fun ref href => ?_
    obtain ⟨s, hfind, hrelation⟩ := Option.bind_eq_some_iff.mp href
    exact hrefs s (List.mem_of_find?_eq_some hfind) ref hrelation
  · simp only at hp
    split at hp
    · rename_i qualifier name hbare
      rw [List.mem_singleton.mp hp]
      exact (originOf_copies ..).backs hbare hbacked hrefs
    · rw [List.mem_singleton.mp hp]
      trivial

theorem projections_length (sources : List Source) (explicit : List String) {item : Expr}
    (hitem : item.isStar = false) : (item.projections sources explicit).length = 1 := by
  unfold Expr.projections
  split
  · cases hitem
  · cases hitem
  · simp only
    split <;> rfl

end Sql

/-- What an analysis of a query says is in order.  An item that is no star has one projection. -/
structure ViewAnalysis.WellFormed (known : KnownRelations) (home : String) (q : Sql.Select)
    (a : ViewAnalysis) : Prop where
  once : a.sources.Nodup
  held : ∀ ref ∈ a.sources, ref ∈ known.map (·.1)
  first : (q.fromTables.filterMap fun t =>
    (Scope.mk known home q.cteNames).relation? t.1 t.2).eraseDups <+: a.sources
  projections : ∃ parts, a.projections = parts.flatten ∧
    List.Forall₂ (fun item ps => (item.isStar = false → ps.length = 1) ∧
      ∀ p ∈ ps, Projection.Backs known a.sources item p) q.items parts

theorem Sql.Select.analysis_wellFormed (q : Sql.Select) (known : KnownRelations) (home : String) :
    (q.analysis known home).WellFormed known home q where
  once := q.sources_nodup known home
  held ref href := q.sources_known known home href
  first := by
    have hsources : (q.analysis known home).sources =
        ((q.sources ⟨known, home, q.cteNames⟩).filterMap (·.relation) ++
          q.tables.filterMap fun t =>
            (Scope.mk known home q.cteNames).relation? t.1 t.2).eraseDups := rfl
    rw [hsources, q.relations_eq, List.eraseDups_append]
    exact List.prefix_append _ _
  projections := by
    let scope : Scope := ⟨known, home, q.cteNames⟩
    let explicit := (q.items.flatMap Expr.qualifiers).filter fun a => !a.isEmpty
    refine ⟨q.items.map (Expr.projections (q.sources scope) explicit), List.flatMap_def, ?_⟩
    rw [List.forall₂_map_right_iff]
    exact List.forall₂_same.mpr fun item _ => ⟨projections_length _ explicit,
      projections_back explicit item (q.backed scope) (q.mem_sources_of_scope known home)⟩

/-- A definition that is a query has an analysis, and this is in order. -/
theorem analyzeView_wellFormed {known : KnownRelations} {view : RelationRef}
    {dialect : Sql.Language} {definition : Option String} {q : Sql.Select}
    (hq : selectOf dialect definition = .ok q) :
    ∃ a, analyzeView known view dialect definition = .ok a ∧
      a.WellFormed known view.schemaName q := by
  refine ⟨q.analysis known view.schemaName, ?_, q.analysis_wellFormed known view.schemaName⟩
  unfold analyzeView
  rw [hq]
  rfl

/-- A column that is written in another case than its table has it. -/
theorem otherCase_wellFormed :
    ∃ q, selectOf (.named "postgres") (some "SELECT Id FROM orders") = .ok q ∧
      ∃ a, analyzeView Sql.ordersOnly ⟨"public", "v", .view⟩ (.named "postgres")
          (some "SELECT Id FROM orders") = .ok a ∧
        a.projections = [.direct Sql.ordersRef "id" "Id"] ∧
        a.WellFormed Sql.ordersOnly "public" q := by
  have hvalue : (analyzeView Sql.ordersOnly ⟨"public", "v", .view⟩ (.named "postgres")
      (some "SELECT Id FROM orders")).toOption.map (·.projections) =
        some [.direct Sql.ordersRef "id" "Id"] := by decide +kernel
  obtain ⟨a, ha, hprojections⟩ := ok_of_map_toOption hvalue
  cases hq : selectOf (.named "postgres") (some "SELECT Id FROM orders") with
  | error e =>
    rw [analyzeView, hq] at ha
    cases ha
  | ok q =>
    obtain ⟨a', ha', hwell⟩ :
        ∃ a, analyzeView Sql.ordersOnly ⟨"public", "v", .view⟩ (.named "postgres")
            (some "SELECT Id FROM orders") = .ok a ∧
          a.WellFormed Sql.ordersOnly "public" q :=
      analyzeView_wellFormed hq
    cases ha.symm.trans ha'
    exact ⟨q, rfl, a, ha, hprojections, hwell⟩

end SchemaLineage
