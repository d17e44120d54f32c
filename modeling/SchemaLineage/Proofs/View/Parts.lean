import Mathlib.Data.List.Perm.Basic
import SchemaLineage.View.Analysis
/-
What each item of a `SELECT` clause contributes to an analysis, and what this depends on.

The projections of an analysis are the parts of the items, one after another (`Select.part`).  An
item that is no star has one projection (`Expr.origin`).  A column with a qualifier is followed to
the source that the qualifier denotes, and there to what its name denotes (`Source.origin`).  For a
column without a qualifier the sources count as a whole, in no particular order, and their labels
only as far as the items name them (`Source.mark`).
-/

namespace SchemaLineage

namespace Source

/-- The column of the source that a name denotes. -/
def spelling? (s : Source) (name : String) : Option String :=
  (s.columns.bind (matchName name)).filter fun n => !n.isEmpty

/-- What a name is followed to in the source. -/
def origin (s : Source) (name outputName : String) : Projection :=
  match s.relation, s.spelling? name with
  | some ref, some n => .direct ref n outputName
  | _, _ => .untraced outputName

/-- A source under no name. -/
def unlabelled (s : Source) : Source := { s with label := "" }

theorem ofQualifier?_eq (sources : List Source) (a : String) : ofQualifier? sources a =
    (sources.find? fun s => s.label = a).or
      (sources.find? fun s => Text.sameFolded s.label a) := by
  unfold ofQualifier?
  split
  · rename_i s hs
    rw [hs, Option.some_or]
  · rename_i hnone
    rw [hnone, Option.none_or]

end Source

section Column

variable {sources sources' : List Source} {explicit explicit' : List String}
  {qualifier qualifier' : Option String} {name outputName a : String}

theorem qualifier_cases (qualifier : Option String) :
    (qualifier.filter fun q => !q.isEmpty) = none ∨ ∃ a, a ≠ "" ∧ qualifier = some a := by
  cases qualifier with
  | none => exact .inl rfl
  | some a =>
    by_cases ha : a = ""
    · exact .inl (by rw [ha]; rfl)
    · exact .inr ⟨a, ha, rfl⟩

theorem originOf_qualified (ha : a ≠ "") (explicit : List String) :
    originOf sources explicit (some a) name outputName =
      (Source.ofQualifier? sources a).elim (.untraced outputName) fun s =>
        s.origin name outputName := by
  have hnamed : (some a).filter (fun q => !q.isEmpty) = some a :=
    Option.filter_some_pos (by simpa using ha)
  unfold originOf
  rw [hnamed]
  dsimp only
  cases hs : Source.ofQualifier? sources a with
  | none => rfl
  | some s =>
    obtain ⟨label, relation, columns⟩ := s
    cases relation with
    | none => rfl
    | some ref =>
      cases columns with
      | none => rfl
      | some columns =>
        simp only [Option.elim_some, Source.origin, Source.spelling?, Option.bind_some]
        cases (matchName name columns).filter fun n => !n.isEmpty <;> rfl

theorem originOf_qualified_congr {a' : String} (ha : a ≠ "") (ha' : a' ≠ "")
    (h : (Source.ofQualifier? sources' a').map Source.unlabelled =
      (Source.ofQualifier? sources a).map Source.unlabelled) :
    originOf sources' explicit' (some a') name outputName =
      originOf sources explicit (some a) name outputName := by
  rw [originOf_qualified ha', originOf_qualified ha]
  have helim : ∀ o : Option Source,
      (o.elim (.untraced outputName) fun s => s.origin name outputName) =
        (o.map Source.unlabelled).elim (.untraced outputName) fun s => s.origin name outputName := by
    intro o
    cases o <;> rfl
  rw [helim, h, ← helim]

namespace Source

/-- A source under no name, and whether an item names it as a qualifier. -/
def mark (explicit : List String) (s : Source) : Source × Bool :=
  (s.unlabelled, explicit.contains s.label)

/-- The sources that have a column of this name: their relation, their spelling of the name, and
whether an item names them. -/
def found (marks : List (Source × Bool)) (name : String) :
    List (Option RelationRef × String × Bool) :=
  marks.filterMap fun m => (m.1.spelling? name).map fun n => (m.1.relation, n, m.2)

theorem found_mark (sources : List Source) (explicit : List String) (name : String) :
    found (sources.map (mark explicit)) name =
      (matching sources name).map fun m => (m.1.relation, m.2, explicit.contains m.1.label) := by
  simp only [found, matching, List.filterMap_map, List.map_filterMap, Function.comp_def, mark,
    unlabelled, spelling?, Option.map_map]

/-- Of several the ones that items name. -/
def preferred (found : List (Option RelationRef × String × Bool)) :
    List (Option RelationRef × String × Bool) :=
  if 1 < found.length then found.filter fun m => m.2.2 else found

/-- What is found once is the origin. -/
def only (found : List (Option RelationRef × String × Bool)) (outputName : String) : Projection :=
  match found with
  | [(some ref, n, _)] => .direct ref n outputName
  | _ => .untraced outputName

variable {found found' : List (Option RelationRef × String × Bool)}

theorem preferred_perm (h : found.Perm found') : (preferred found).Perm (preferred found') := by
  unfold preferred
  rw [h.length_eq]
  split
  · exact h.filter _
  · exact h

theorem only_of_length (h : found.length ≠ 1) : only found outputName = .untraced outputName := by
  unfold only
  split
  · exact absurd rfl h
  · rfl

theorem only_perm (h : found.Perm found') : only found outputName = only found' outputName := by
  by_cases hone : found.length = 1
  · obtain ⟨m, rfl⟩ := List.length_eq_one_iff.mp hone
    rw [List.singleton_perm.mp h]
  · rw [only_of_length hone, only_of_length (h.length_eq ▸ hone)]

end Source

/-- A column without a qualifier is sought in all sources. -/
def bareOrigin (marks : List (Source × Bool)) (name outputName : String) : Projection :=
  if marks.any fun m => m.1.columns.isNone then .untraced outputName
  else Source.only (Source.preferred (Source.found marks name)) outputName

theorem bareOrigin_perm {marks marks' : List (Source × Bool)} (h : marks.Perm marks') :
    bareOrigin marks name outputName = bareOrigin marks' name outputName := by
  have hfound : (Source.found marks name).Perm (Source.found marks' name) := h.filterMap _
  unfold bareOrigin
  rw [h.any_eq, Source.only_perm (Source.preferred_perm hfound)]

theorem originOf_bare (hbare : (qualifier.filter fun q => !q.isEmpty) = none) :
    originOf sources explicit qualifier name outputName =
      bareOrigin (sources.map (Source.mark explicit)) name outputName := by
  have hunknown : ((sources.map (Source.mark explicit)).any fun m => m.1.columns.isNone) =
      sources.any fun s => s.columns.isNone := List.any_map
  unfold originOf bareOrigin
  rw [hbare, hunknown]
  dsimp only
  split
  · rfl
  · have hpreferred : Source.preferred (Source.found (sources.map (Source.mark explicit)) name) =
        (if 1 < (Source.matching sources name).length then
          (Source.matching sources name).filter fun m => explicit.contains m.1.label
          else Source.matching sources name).map fun m =>
            (m.1.relation, m.2, explicit.contains m.1.label) := by
      rw [Source.found_mark, Source.preferred, List.length_map]
      split
      · rw [List.filter_map]
        rfl
      · rfl
    rw [hpreferred]
    generalize (if 1 < (Source.matching sources name).length then
      (Source.matching sources name).filter fun m => explicit.contains m.1.label
      else Source.matching sources name) = ms
    match ms with
    | [] => rfl
    | [(⟨_, none, _⟩, _)] => rfl
    | [(⟨_, some _, _⟩, _)] => rfl
    | m :: m' :: ms =>
      have htwo : (List.map (fun m : Source × String =>
          (m.1.relation, m.2, explicit.contains m.1.label)) (m :: m' :: ms)).length ≠ 1 := by simp
      rw [Source.only_of_length htwo]
      split
      · rename_i hone
        cases hone
      · rfl

/-- A qualifier denotes in one scope what another one denotes in another, but for the label. -/
structure Source.Agree (sources sources' : List Source) (a a' : String) : Prop where
  empty : a' = "" ↔ a = ""
  denotes : a ≠ "" → (ofQualifier? sources' a').map unlabelled =
    (ofQualifier? sources a).map unlabelled

theorem originOf_congr (hmarks : sources'.map (Source.mark explicit') =
    sources.map (Source.mark explicit))
    (hqualifier : Option.Rel (Source.Agree sources sources') qualifier qualifier') :
    originOf sources' explicit' qualifier' name outputName =
      originOf sources explicit qualifier name outputName := by
  cases hqualifier with
  | none => rw [originOf_bare rfl, originOf_bare rfl, hmarks]
  | some h =>
    rename_i a a'
    by_cases ha : a = ""
    · have ha' : a' = "" := h.empty.mpr ha
      subst ha ha'
      rw [originOf_bare rfl, originOf_bare rfl, hmarks]
    · exact originOf_qualified_congr ha (fun ha' => ha (h.empty.mp ha')) (h.denotes ha)

theorem originOf_outputName (sources : List Source) (explicit : List String)
    (qualifier : Option String) (name outputName : String) :
    (originOf sources explicit qualifier name outputName).outputName = some outputName := by
  unfold originOf
  split
  · split
    · split <;> rfl
    · rfl
  · split
    · rfl
    · dsimp only
      split <;> rfl

end Column

namespace Sql

/-- The name under which an item is seen; one that has none gets one. -/
def Expr.itemName (item : Expr) : String :=
  if item.outputName.isEmpty then anonymousColumn else item.outputName

/-- What an item that is no star is followed to. -/
def Expr.origin (sources : List Source) (explicit : List String) (item : Expr) : Projection :=
  match item.bare with
  | .column qualifier name => originOf sources explicit qualifier name item.itemName
  | _ => .untraced item.itemName

theorem Expr.projections_starOf (sources : List Source) (explicit : List String) (a : String) :
    (Expr.starOf a).projections sources explicit =
      [.wildcard ((sources.find? fun s => s.label = a).map (·.relation)).join] := by
  rw [← Option.bind_id_eq_join, Option.bind_map]
  rfl

theorem Expr.projections_of_isStar {item : Expr} (h : item.isStar = false)
    (sources : List Source) (explicit : List String) :
    item.projections sources explicit = [item.origin sources explicit] := by
  unfold Expr.projections
  split
  · cases h
  · cases h
  · unfold Expr.origin
    dsimp only
    cases item.bare <;> rfl

section Origin

variable {sources sources' : List Source} {explicit explicit' : List String} {e e' : Expr}

theorem Expr.origin_of_column {qualifier : Option String} {name : String}
    (h : e.bare = .column qualifier name) (sources : List Source) (explicit : List String) :
    e.origin sources explicit = originOf sources explicit qualifier name e.itemName := by
  unfold Expr.origin
  rw [h]

theorem Expr.origin_of_other (h : ∀ qualifier name, e.bare ≠ .column qualifier name)
    (sources : List Source) (explicit : List String) :
    e.origin sources explicit = .untraced e.itemName := by
  unfold Expr.origin
  split
  · rename_i qualifier name hbare
    exact absurd hbare (h qualifier name)
  · rfl

/-- Items of the same name are followed alike if both are columns whose qualifiers agree. -/
theorem Expr.origin_congr (hmarks : sources'.map (Source.mark explicit') =
    sources.map (Source.mark explicit)) (hname : e'.itemName = e.itemName)
    (hcolumn : ∀ qualifier name, e.bare = .column qualifier name →
      ∃ qualifier', e'.bare = .column qualifier' name ∧
        Option.Rel (Source.Agree sources sources') qualifier qualifier')
    (hother : ∀ qualifier name, e'.bare = .column qualifier name →
      ∃ qualifier', e.bare = .column qualifier' name) :
    e'.origin sources' explicit' = e.origin sources explicit := by
  by_cases h : ∃ qualifier name, e.bare = .column qualifier name
  · obtain ⟨qualifier, name, hbare⟩ := h
    obtain ⟨qualifier', hbare', hagree⟩ := hcolumn qualifier name hbare
    rw [Expr.origin_of_column hbare, Expr.origin_of_column hbare', hname]
    exact originOf_congr hmarks hagree
  · have hbare : ∀ qualifier name, e.bare ≠ .column qualifier name :=
      fun qualifier name heq => h ⟨qualifier, name, heq⟩
    have hbare' : ∀ qualifier name, e'.bare ≠ .column qualifier name := by
      intro qualifier name heq
      obtain ⟨qualifier', heq'⟩ := hother qualifier name heq
      exact hbare qualifier' name heq'
    rw [Expr.origin_of_other hbare, Expr.origin_of_other hbare', hname]

end Origin

theorem Expr.origin_outputName (sources : List Source) (explicit : List String) (item : Expr) :
    (item.origin sources explicit).outputName = some item.itemName := by
  unfold Expr.origin
  split
  · exact originOf_outputName ..
  · rfl

namespace Select

/-- The qualifiers that items name anywhere. -/
def explicit (q : Select) : List String :=
  (q.items.flatMap Expr.qualifiers).filter fun a => !a.isEmpty

/-- What an item contributes to the projections. -/
def part (q : Select) (known : KnownRelations) (home : String) (item : Expr) : List Projection :=
  item.projections (q.sources ⟨known, home, q.cteNames⟩) q.explicit

theorem projections_eq (q : Select) (known : KnownRelations) (home : String) :
    (q.analysis known home).projections = q.items.flatMap (q.part known home) := rfl

theorem part_of_isStar (q : Select) (known : KnownRelations) (home : String) {item : Expr}
    (h : item.isStar = false) : q.part known home item =
      [item.origin (q.sources ⟨known, home, q.cteNames⟩) q.explicit] :=
  Expr.projections_of_isStar h _ _

end Select
end Sql
end SchemaLineage
