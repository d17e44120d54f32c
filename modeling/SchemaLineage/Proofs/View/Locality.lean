import SchemaLineage.Proofs.Outcome
import SchemaLineage.View.Analysis
/-
What an analysis looks at.

The meaning of a name depends on which relations are known, and not on their columns.  Columns are
consulted only for relations in scope, and these are among the sources of the analysis.  So when the
columns of one relation change (`KnownRelations.AgreeBut`), every query keeps its sources, and the
analysis of a query that does not have the relation among them stays the same.
-/

namespace SchemaLineage

variable {x : RelationRef} {known known' : KnownRelations}

/-- The same relations, with the same columns but for one of them. -/
structure KnownRelations.AgreeBut (x : RelationRef) (known known' : KnownRelations) : Prop where
  refs : known.map (·.1) = known'.map (·.1)
  columns : ∀ ref, ref ≠ x → known.columns? ref = known'.columns? ref

namespace KnownRelations.AgreeBut

theorem lookup (h : AgreeBut x known known') (home : String) (schema : Option String)
    (name : String) : known.lookup home schema name = known'.lookup home schema name := by
  simp only [KnownRelations.lookup, spelled?, folded, h.refs]

theorem relation? (h : AgreeBut x known known') (home : String) (ctes : List String)
    (schema : Option String) (name : String) :
    (Scope.mk known home ctes).relation? schema name =
      (Scope.mk known' home ctes).relation? schema name := by
  simp only [Scope.relation?, h.lookup]

end KnownRelations.AgreeBut

/-- The same source, but for the columns of one relation. -/
structure Source.AgreeBut (x : RelationRef) (s s' : Source) : Prop where
  relation : s.relation = s'.relation
  same : s.relation ≠ some x → s = s'

theorem Source.AgreeBut.refl (s : Source) : s.AgreeBut x s := ⟨rfl, fun _ => rfl⟩

namespace Sql

theorem source_agree (h : known.AgreeBut x known') (home : String) (ctes : List String)
    (label : String) (schema : Option String) (name : String) :
    Source.AgreeBut x
      ⟨label, (Scope.mk known home ctes).relation? schema name,
        ((Scope.mk known home ctes).relation? schema name).bind known.columns?⟩
      ⟨label, (Scope.mk known' home ctes).relation? schema name,
        ((Scope.mk known' home ctes).relation? schema name).bind known'.columns?⟩ := by
  rw [h.relation?]
  refine ⟨rfl, fun hne => ?_⟩
  cases href : (Scope.mk known' home ctes).relation? schema name with
  | none => rfl
  | some ref =>
    have hcolumns : known.columns? ref = known'.columns? ref := by
      refine h.columns ref fun heq => hne ?_
      rw [← heq]
      exact href
    simp only [Option.bind_some, hcolumns]

mutual

theorem FromItem.sources_agree (h : known.AgreeBut x known') (home : String)
    (ctes : List String) : ∀ item : FromItem,
    List.Forall₂ (Source.AgreeBut x) (item.sources ⟨known, home, ctes⟩)
      (item.sources ⟨known', home, ctes⟩)
  | .table schema name _ _ joins =>
    .cons (source_agree h home ctes _ schema name) (sourcesOfJoins_agree h home ctes joins)
  | .derived _ _ joins => .cons (.refl _) (sourcesOfJoins_agree h home ctes joins)
  | .group item _ joins =>
    List.rel_append (FromItem.sources_agree h home ctes item)
      (sourcesOfJoins_agree h home ctes joins)
  | .other _ _ joins => .cons (.refl _) (sourcesOfJoins_agree h home ctes joins)

theorem Join.sources_agree (h : known.AgreeBut x known') (home : String) (ctes : List String) :
    ∀ join : Join, List.Forall₂ (Source.AgreeBut x) (join.sources ⟨known, home, ctes⟩)
      (join.sources ⟨known', home, ctes⟩)
  | .mk item _ => FromItem.sources_agree h home ctes item

theorem sourcesOfJoins_agree (h : known.AgreeBut x known') (home : String)
    (ctes : List String) : ∀ joins : List Join,
    List.Forall₂ (Source.AgreeBut x) (sourcesOfJoins ⟨known, home, ctes⟩ joins)
      (sourcesOfJoins ⟨known', home, ctes⟩ joins)
  | [] => .nil
  | join :: joins =>
    List.rel_append (Join.sources_agree h home ctes join) (sourcesOfJoins_agree h home ctes joins)

end

namespace Select

variable (q : Select)

theorem sources_agree (h : known.AgreeBut x known') (home : String) (ctes : List String) :
    List.Forall₂ (Source.AgreeBut x) (q.sources ⟨known, home, ctes⟩)
      (q.sources ⟨known', home, ctes⟩) := by
  have hsame : List.Forall₂ (fun item item' : FromItem => item = item') q.source q.source :=
    List.forall₂_same.mpr fun item _ => rfl
  refine List.rel_append (List.rel_flatMap hsame ?_) (sourcesOfJoins_agree h home ctes q.joins)
  rintro item _ rfl
  exact FromItem.sources_agree h home ctes item

/-- Which relations a query reads depends on no columns. -/
theorem relations_agree (h : known.AgreeBut x known') (home : String) :
    (q.analysis known home).sources = (q.analysis known' home).sources := by
  have hscope : (q.sources ⟨known, home, q.cteNames⟩).filterMap (·.relation) =
      (q.sources ⟨known', home, q.cteNames⟩).filterMap (·.relation) :=
    filterMap_eq_of_forall₂ (q.sources_agree h home q.cteNames) fun _ _ hs => hs.relation
  have hnamed : (q.tables.filterMap fun t => (Scope.mk known home q.cteNames).relation? t.1 t.2) =
      q.tables.filterMap fun t => (Scope.mk known' home q.cteNames).relation? t.1 t.2 :=
    List.filterMap_congr fun t _ => h.relation? home q.cteNames t.1 t.2
  show (_ ++ _ : List RelationRef).eraseDups = (_ ++ _ : List RelationRef).eraseDups
  rw [hscope, hnamed]

theorem analysis_agree (h : known.AgreeBut x known') {home : String}
    (hx : x ∉ (q.analysis known home).sources) :
    q.analysis known home = q.analysis known' home := by
  have hne : ∀ s ∈ q.sources ⟨known, home, q.cteNames⟩, s.relation ≠ some x := by
    intro s hs heq
    exact hx (List.mem_eraseDups.mpr (List.mem_append_left _ (List.mem_filterMap.mpr ⟨s, hs, heq⟩)))
  have hsources : q.sources ⟨known, home, q.cteNames⟩ = q.sources ⟨known', home, q.cteNames⟩ := by
    rw [← List.forall₂_eq_eq_eq]
    have hboth := (List.forall₂_and_left _ _).mpr ⟨hne, q.sources_agree h home q.cteNames⟩
    exact hboth.imp fun s s' hs => hs.2.same hs.1
  have hprojections : (q.analysis known home).projections =
      (q.analysis known' home).projections := by
    show q.items.flatMap (Expr.projections (q.sources ⟨known, home, q.cteNames⟩) _) = _
    rw [hsources]
    rfl
  exact congrArg₂ ViewAnalysis.mk (q.relations_agree h home) hprojections

end Select
end Sql

section Analysis

variable {view : RelationRef} {dialect : Sql.Language} {definition : Option String}

theorem analyzeView_agree (h : known.AgreeBut x known') {a : ViewAnalysis}
    (ha : analyzeView known view dialect definition = .ok a) (hx : x ∉ a.sources) :
    analyzeView known' view dialect definition = .ok a := by
  unfold analyzeView at ha ⊢
  cases hq : selectOf dialect definition with
  | error e => rw [hq] at ha; cases ha
  | ok q =>
    rw [hq] at ha
    cases ha
    exact congrArg Except.ok (q.analysis_agree h hx).symm

/-- Why a definition has no analysis depends on the definition alone. -/
theorem analyzeView_error {e : AnalysisError} (known' : KnownRelations)
    (he : analyzeView known view dialect definition = .error e) :
    analyzeView known' view dialect definition = .error e := by
  unfold analyzeView at he ⊢
  cases hq : selectOf dialect definition with
  | error e' => rw [hq] at he; exact he
  | ok q => rw [hq] at he; cases he

end Analysis
end SchemaLineage
