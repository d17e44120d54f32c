import SchemaLineage.View.Analysis
/-
What an analysis says of a column can be looked up.

A projection gets its relation from a source in scope, and the column that it copies from the
columns of that source (`Projection.From`).  A source with a relation got it by looking up a name
among the known relations, and has their columns (`Source.Backed`).  Both together say that every
relation an analysis follows is known, that it has the columns that are followed, and that it is
among the relations that the view declares to read.
-/

namespace SchemaLineage

theorem KnownRelations.columns?_of_lookup {known : KnownRelations} {home name : String}
    {schema : Option String} {ref : RelationRef} (h : known.lookup home schema name = some ref) :
    ∃ names, known.columns? ref = some names := by
  obtain ⟨entry, hmem, hentry⟩ := List.mem_map.mp (mem_of_lookup h)
  have hsome : (List.lookup ref known).isSome :=
    List.lookup_isSome_iff.mpr ⟨entry, hmem, beq_iff_eq.mpr hentry.symm⟩
  exact Option.isSome_iff_exists.mp hsome

/-- The relation of a source is known, and the source has its columns. -/
def Source.Backed (known : KnownRelations) (s : Source) : Prop :=
  ∀ ref, s.relation = some ref → ∃ names, known.columns? ref = some names ∧ s.columns = some names

theorem Source.backed_of_none {known : KnownRelations} (label : String)
    (columns : Option (List String)) : Source.Backed known ⟨label, none, columns⟩ := by
  intro ref h
  cases h

namespace Sql

theorem backed_table (s : Scope) (label : String) (schema : Option String) (name : String) :
    Source.Backed s.known
      ⟨label, s.relation? schema name, (s.relation? schema name).bind s.known.columns?⟩ := by
  intro ref h
  have href : s.relation? schema name = some ref := h
  have hlookup : s.known.lookup s.home schema name = some ref := by
    unfold Scope.relation? at href
    split at href
    · cases href
    · exact href
  obtain ⟨names, hnames⟩ := KnownRelations.columns?_of_lookup hlookup
  refine ⟨names, hnames, ?_⟩
  show (s.relation? schema name).bind s.known.columns? = some names
  rw [href]
  exact hnames

mutual

theorem FromItem.backed (s : Scope) :
    ∀ item : FromItem, ∀ source ∈ item.sources s, source.Backed s.known
  | .table schema name label _ joins, source, h => by
    rcases List.mem_cons.mp h with rfl | h
    · exact backed_table s _ schema name
    · exact backed_of_joins s joins source h
  | .derived body label joins, source, h => by
    rcases List.mem_cons.mp h with rfl | h
    · exact Source.backed_of_none label body.columns?
    · exact backed_of_joins s joins source h
  | .group item _ joins, source, h => by
    rcases List.mem_append.mp h with h | h
    · exact FromItem.backed s item source h
    · exact backed_of_joins s joins source h
  | .other label _ joins, source, h => by
    rcases List.mem_cons.mp h with rfl | h
    · exact Source.backed_of_none label none
    · exact backed_of_joins s joins source h

theorem Join.backed (s : Scope) :
    ∀ join : Join, ∀ source ∈ join.sources s, source.Backed s.known
  | .mk item _, source, h => FromItem.backed s item source h

theorem backed_of_joins (s : Scope) :
    ∀ joins : List Join, ∀ source ∈ sourcesOfJoins s joins, source.Backed s.known
  | [], source, h => absurd h List.not_mem_nil
  | join :: joins, source, h => by
    rcases List.mem_append.mp h with h | h
    · exact Join.backed s join source h
    · exact backed_of_joins s joins source h

end

theorem Select.backed (s : Scope) (q : Select) : ∀ source ∈ q.sources s, source.Backed s.known := by
  intro source h
  rcases List.mem_append.mp h with h | h
  · obtain ⟨item, -, h⟩ := List.mem_flatMap.mp h
    exact FromItem.backed s item source h
  · exact backed_of_joins s q.joins source h

end Sql

/-- A projection follows a source in scope, and copies a column of it. -/
def Projection.From (sources : List Source) : Projection → Prop
  | .direct ref column _ =>
    ∃ s ∈ sources, s.relation = some ref ∧ ∃ names, s.columns = some names ∧ column ∈ names
  | .wildcard (some ref) => ∃ s ∈ sources, s.relation = some ref
  | .wildcard none => True
  | .untraced _ => True

namespace Projection

variable {sources : List Source}

theorem From.source {p : Projection} (h : p.From sources) {ref : RelationRef}
    (href : p.source = some ref) : ∃ s ∈ sources, s.relation = some ref := by
  cases p with
  | direct ref' column name =>
    cases href
    obtain ⟨s, hs, hrelation, -⟩ := h
    exact ⟨s, hs, hrelation⟩
  | wildcard ref' =>
    have heq : ref' = some ref := href
    subst heq
    exact h
  | untraced name => cases href

theorem from_wildcard {s : Source} (hs : s ∈ sources) : (wildcard s.relation).From sources := by
  obtain ⟨label, relation, columns⟩ := s
  cases relation with
  | none => trivial
  | some ref => exact ⟨_, hs, rfl⟩

end Projection

namespace Source

theorem mem_of_ofQualifier? {sources : List Source} {qualifier : String} {s : Source}
    (h : ofQualifier? sources qualifier = some s) : s ∈ sources := by
  unfold ofQualifier? at h
  split at h
  · rename_i s' hfind
    cases h
    exact List.mem_of_find?_eq_some hfind
  · exact List.mem_of_find?_eq_some h

theorem mem_matching {sources : List Source} {name : String} {m : Source × String}
    (h : m ∈ matching sources name) :
    m.1 ∈ sources ∧ ∃ names, m.1.columns = some names ∧ matchName name names = some m.2 := by
  obtain ⟨s, hs, hm⟩ := List.mem_filterMap.mp h
  obtain ⟨n, hn, rfl⟩ := Option.map_eq_some_iff.mp hm
  obtain ⟨hbind, -⟩ := Option.filter_eq_some_iff.mp hn
  obtain ⟨names, hnames, hmatch⟩ := Option.bind_eq_some_iff.mp hbind
  exact ⟨hs, names, hnames, hmatch⟩

end Source

/-- A column by this name is followed to a source in scope, to what the name denotes there. -/
def Projection.Copies (sources : List Source) (name : String) : Projection → Prop
  | .direct ref column _ =>
    ∃ s ∈ sources, s.relation = some ref ∧
      ∃ names, s.columns = some names ∧ matchName name names = some column
  | .wildcard _ => False
  | .untraced _ => True

theorem originOf_copies (sources : List Source) (explicit : List String)
    (qualifier : Option String) (name outputName : String) :
    (originOf sources explicit qualifier name outputName).Copies sources name := by
  unfold originOf
  split
  · split
    · rename_i ref columns hsource
      split
      · rename_i n hn
        obtain ⟨hmatch, -⟩ := Option.filter_eq_some_iff.mp hn
        exact ⟨_, Source.mem_of_ofQualifier? hsource, rfl, columns, rfl, hmatch⟩
      · trivial
    · trivial
  · split
    · trivial
    · simp only
      split
      · rename_i label ref columns n hfound
        have hmem : ((⟨label, some ref, columns⟩, n) : Source × String) ∈
            Source.matching sources name := by
          have hone : ((⟨label, some ref, columns⟩, n) : Source × String) ∈
              [((⟨label, some ref, columns⟩, n) : Source × String)] := List.mem_cons_self
          rw [← hfound] at hone
          split at hone
          · exact (List.mem_filter.mp hone).1
          · exact hone
        obtain ⟨hs, names, hnames, hn⟩ := Source.mem_matching hmem
        exact ⟨_, hs, rfl, names, hnames, hn⟩
      · trivial

theorem Projection.Copies.to_from {sources : List Source} {name : String} {p : Projection}
    (h : p.Copies sources name) : p.From sources := by
  cases p with
  | direct ref column outputName =>
    obtain ⟨s, hs, hrelation, names, hnames, hmatch⟩ := h
    exact ⟨s, hs, hrelation, names, hnames, mem_of_matchName hmatch⟩
  | wildcard ref => exact h.elim
  | untraced outputName => trivial

namespace Sql

theorem projections_from (sources : List Source) (explicit : List String) (item : Expr) :
    ∀ p ∈ item.projections sources explicit, p.From sources := by
  intro p hp
  unfold Expr.projections at hp
  split at hp
  · obtain ⟨s, hs, rfl⟩ := List.mem_map.mp hp
    exact Projection.from_wildcard hs
  · rename_i q
    rw [List.mem_singleton.mp hp]
    cases hfind : sources.find? fun s => s.label = q with
    | none => trivial
    | some s => exact Projection.from_wildcard (List.mem_of_find?_eq_some hfind)
  · simp only at hp
    split at hp
    · rw [List.mem_singleton.mp hp]
      exact (originOf_copies ..).to_from
    · rw [List.mem_singleton.mp hp]
      trivial

end Sql

/-- What a query brings into scope is among the relations of its analysis. -/
theorem Sql.Select.mem_sources_of_scope (q : Sql.Select) (known : KnownRelations) (home : String) :
    ∀ s ∈ q.sources ⟨known, home, q.cteNames⟩, ∀ ref, s.relation = some ref →
      ref ∈ (q.analysis known home).sources := by
  intro s hs ref href
  show ref ∈ (_ ++ _ : List RelationRef).eraseDups
  rw [List.mem_eraseDups]
  exact List.mem_append_left _ (List.mem_filterMap.mpr ⟨s, hs, href⟩)

/-- What a projection follows is known. -/
def Projection.Known (known : KnownRelations) : Projection → Prop
  | .direct ref column _ => ∃ names, known.columns? ref = some names ∧ column ∈ names
  | .wildcard (some ref) => ∃ names, known.columns? ref = some names
  | .wildcard none => True
  | .untraced _ => True

theorem Projection.From.known {known : KnownRelations} {sources : List Source}
    (hsources : ∀ s ∈ sources, s.Backed known) {p : Projection} (h : p.From sources) :
    p.Known known := by
  cases p with
  | direct ref column name =>
    obtain ⟨s, hs, hrelation, names, hnames, hcolumn⟩ := h
    obtain ⟨names', hknown, hnames'⟩ := hsources s hs ref hrelation
    rw [hnames] at hnames'
    cases hnames'
    exact ⟨names, hknown, hcolumn⟩
  | wildcard ref =>
    cases ref with
    | none => trivial
    | some ref =>
      obtain ⟨s, hs, hrelation⟩ := h
      obtain ⟨names, hknown, -⟩ := hsources s hs ref hrelation
      exact ⟨names, hknown⟩
  | untraced name => trivial

section Analysis

variable {known : KnownRelations} {view : RelationRef} {dialect : Sql.Language}
  {definition : Option String} {a : ViewAnalysis}

theorem analyzeView_ok (h : analyzeView known view dialect definition = .ok a) :
    ∃ q : Sql.Select, a = q.analysis known view.schemaName := by
  unfold analyzeView at h
  cases hq : selectOf dialect definition with
  | error e => rw [hq] at h; cases h
  | ok q =>
    rw [hq] at h
    cases h
    exact ⟨q, rfl⟩

theorem analyzeView_from (h : analyzeView known view dialect definition = .ok a) :
    ∃ sources : List Source, (∀ s ∈ sources, s.Backed known) ∧
      (∀ s ∈ sources, ∀ ref, s.relation = some ref → ref ∈ a.sources) ∧
      ∀ p ∈ a.projections, p.From sources := by
  obtain ⟨q, rfl⟩ := analyzeView_ok h
  let scope : Scope := ⟨known, view.schemaName, q.cteNames⟩
  refine ⟨q.sources scope, q.backed scope, q.mem_sources_of_scope known view.schemaName,
    fun p hp => ?_⟩
  obtain ⟨item, -, hp⟩ := List.mem_flatMap.mp hp
  exact Sql.projections_from _ _ item p hp

theorem source_mem_of_analyzeView (h : analyzeView known view dialect definition = .ok a) :
    ∀ p ∈ a.projections, ∀ ref, p.source = some ref → ref ∈ a.sources := by
  obtain ⟨sources, -, hdeclared, hfrom⟩ := analyzeView_from h
  intro p hp ref href
  obtain ⟨s, hs, hrelation⟩ := (hfrom p hp).source href
  exact hdeclared s hs ref hrelation

end Analysis
end SchemaLineage
