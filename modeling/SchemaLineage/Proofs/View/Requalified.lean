import SchemaLineage.Proofs.View.Parts
/-
Expressions with other qualifiers.

`Expr.requalified` puts another qualifier for each one in an expression, at any depth, and leaves
everything else as it is: names of columns and tables, labels, and the shape.  The mentions of the
expression change alike (`Expr.mentions_requalified`), and the name of an item does not change.

Two expressions are the same but for their qualifiers if they are equal once all qualifiers are taken
away (`Expr.erased`).  As items they contribute the same if their qualifiers denote the same
(`Expr.projections_of_shape`), and a query names the same tables with either
(`Select.tables_eq_of_shapes`).
-/

namespace SchemaLineage
namespace Sql

mutual

def Expr.requalified (f : String → String) : Expr → Expr
  | .column qualifier name => .column (qualifier.map f) name
  | .star => .star
  | .starOf qualifier => .starOf (f qualifier)
  | .literal text => .literal text
  | .null => .null
  | .named e name => .named (e.requalified f) name
  | .paren e => .paren (e.requalified f)
  | .cast e => .cast (e.requalified f)
  | .member e p => .member (e.requalified f) (p.requalified f)
  | .index e is => .index (e.requalified f) (requalifiedExprs f is)
  | .keyed kind e k => .keyed kind (e.requalified f) (k.requalified f)
  | .call name es => .call name (requalifiedExprs f es)
  | .operation kind es => .operation kind (requalifiedExprs f es)
  | .subquery q => .subquery (q.requalified f)
  | .query q => .query (q.requalified f)
  | .relation i => .relation (i.requalified f)

def Query.requalified (f : String → String) : Query → Query
  | .select s => .select (s.requalified f)
  | .combined kind l r cs ws =>
    .combined kind (l.requalified f) (r.requalified f) (requalifiedExprs f cs) (requalifiedCtes f ws)
  | .values rs label => .values (requalifiedExprs f rs) label
  | .wrapped q label js cs ws =>
    .wrapped (q.requalified f) label (requalifiedJoins f js) (requalifiedExprs f cs)
      (requalifiedCtes f ws)
  | .other kind ps ws => .other kind (requalifiedExprs f ps) (requalifiedCtes f ws)

def Select.requalified (f : String → String) : Select → Select
  | .mk is src js cs ws =>
    .mk (requalifiedExprs f is) (requalifiedItems f src) (requalifiedJoins f js)
      (requalifiedExprs f cs) (requalifiedCtes f ws)

def FromItem.requalified (f : String → String) : FromItem → FromItem
  | .table s n label es js => .table s n label (requalifiedExprs f es) (requalifiedJoins f js)
  | .derived q label js => .derived (q.requalified f) label (requalifiedJoins f js)
  | .group i cs js => .group (i.requalified f) (requalifiedExprs f cs) (requalifiedJoins f js)
  | .other label ps js => .other label (requalifiedExprs f ps) (requalifiedJoins f js)

def Join.requalified (f : String → String) : Join → Join
  | .mk i cs => .mk (i.requalified f) (requalifiedExprs f cs)

def Cte.requalified (f : String → String) : Cte → Cte
  | .mk name recursive q => .mk name recursive (q.requalified f)

def requalifiedExprs (f : String → String) : List Expr → List Expr
  | [] => []
  | e :: es => e.requalified f :: requalifiedExprs f es

def requalifiedItems (f : String → String) : List FromItem → List FromItem
  | [] => []
  | i :: is => i.requalified f :: requalifiedItems f is

def requalifiedJoins (f : String → String) : List Join → List Join
  | [] => []
  | j :: js => j.requalified f :: requalifiedJoins f js

def requalifiedCtes (f : String → String) : List Cte → List Cte
  | [] => []
  | c :: cs => c.requalified f :: requalifiedCtes f cs

end

theorem requalifiedExprs_eq (f : String → String) (es : List Expr) :
    requalifiedExprs f es = es.map (Expr.requalified f) := by
  induction es with
  | nil => rfl
  | cons e es ih => rw [requalifiedExprs, ih, List.map_cons]

section Twice

variable (f g : String → String)

mutual

theorem Expr.requalified_requalified :
    ∀ e : Expr, (e.requalified f).requalified g = e.requalified (g ∘ f)
  | .column _ _ => by simp only [Expr.requalified, Option.map_map]
  | .star | .starOf _ | .literal _ | .null => rfl
  | .named e _ => by simp only [Expr.requalified, Expr.requalified_requalified e]
  | .paren e => by simp only [Expr.requalified, Expr.requalified_requalified e]
  | .cast e => by simp only [Expr.requalified, Expr.requalified_requalified e]
  | .member e p => by
    simp only [Expr.requalified, Expr.requalified_requalified e, Expr.requalified_requalified p]
  | .index e is => by
    simp only [Expr.requalified, Expr.requalified_requalified e, requalifiedExprs_twice is]
  | .keyed _ e k => by
    simp only [Expr.requalified, Expr.requalified_requalified e, Expr.requalified_requalified k]
  | .call _ es => by simp only [Expr.requalified, requalifiedExprs_twice es]
  | .operation _ es => by simp only [Expr.requalified, requalifiedExprs_twice es]
  | .subquery q => by simp only [Expr.requalified, Query.requalified_requalified q]
  | .query q => by simp only [Expr.requalified, Query.requalified_requalified q]
  | .relation i => by simp only [Expr.requalified, FromItem.requalified_requalified i]

theorem Query.requalified_requalified :
    ∀ q : Query, (q.requalified f).requalified g = q.requalified (g ∘ f)
  | .select s => by simp only [Query.requalified, Select.requalified_requalified s]
  | .combined _ l r cs ws => by
    simp only [Query.requalified, Query.requalified_requalified l, Query.requalified_requalified r,
      requalifiedExprs_twice cs, requalifiedCtes_twice ws]
  | .values rs _ => by simp only [Query.requalified, requalifiedExprs_twice rs]
  | .wrapped q _ js cs ws => by
    simp only [Query.requalified, Query.requalified_requalified q, requalifiedJoins_twice js,
      requalifiedExprs_twice cs, requalifiedCtes_twice ws]
  | .other _ ps ws => by
    simp only [Query.requalified, requalifiedExprs_twice ps, requalifiedCtes_twice ws]

theorem Select.requalified_requalified :
    ∀ s : Select, (s.requalified f).requalified g = s.requalified (g ∘ f)
  | .mk is src js cs ws => by
    simp only [Select.requalified, requalifiedExprs_twice is, requalifiedItems_twice src,
      requalifiedJoins_twice js, requalifiedExprs_twice cs, requalifiedCtes_twice ws]

theorem FromItem.requalified_requalified :
    ∀ i : FromItem, (i.requalified f).requalified g = i.requalified (g ∘ f)
  | .table _ _ _ es js => by
    simp only [FromItem.requalified, requalifiedExprs_twice es, requalifiedJoins_twice js]
  | .derived q _ js => by
    simp only [FromItem.requalified, Query.requalified_requalified q, requalifiedJoins_twice js]
  | .group i cs js => by
    simp only [FromItem.requalified, FromItem.requalified_requalified i, requalifiedExprs_twice cs,
      requalifiedJoins_twice js]
  | .other _ ps js => by
    simp only [FromItem.requalified, requalifiedExprs_twice ps, requalifiedJoins_twice js]

theorem Join.requalified_requalified :
    ∀ j : Join, (j.requalified f).requalified g = j.requalified (g ∘ f)
  | .mk i cs => by
    simp only [Join.requalified, FromItem.requalified_requalified i, requalifiedExprs_twice cs]

theorem Cte.requalified_requalified :
    ∀ c : Cte, (c.requalified f).requalified g = c.requalified (g ∘ f)
  | .mk _ _ q => by simp only [Cte.requalified, Query.requalified_requalified q]

theorem requalifiedExprs_twice :
    ∀ es : List Expr, requalifiedExprs g (requalifiedExprs f es) = requalifiedExprs (g ∘ f) es
  | [] => rfl
  | e :: es => by
    simp only [requalifiedExprs, Expr.requalified_requalified e, requalifiedExprs_twice es]

theorem requalifiedItems_twice :
    ∀ is : List FromItem, requalifiedItems g (requalifiedItems f is) = requalifiedItems (g ∘ f) is
  | [] => rfl
  | i :: is => by
    simp only [requalifiedItems, FromItem.requalified_requalified i, requalifiedItems_twice is]

theorem requalifiedJoins_twice :
    ∀ js : List Join, requalifiedJoins g (requalifiedJoins f js) = requalifiedJoins (g ∘ f) js
  | [] => rfl
  | j :: js => by
    simp only [requalifiedJoins, Join.requalified_requalified j, requalifiedJoins_twice js]

theorem requalifiedCtes_twice :
    ∀ cs : List Cte, requalifiedCtes g (requalifiedCtes f cs) = requalifiedCtes (g ∘ f) cs
  | [] => rfl
  | c :: cs => by
    simp only [requalifiedCtes, Cte.requalified_requalified c, requalifiedCtes_twice cs]

end

end Twice

/-! ## Mentions -/

def Mention.requalified (f : String → String) : Mention → Mention
  | table schema name => table schema name
  | qualifier name => qualifier (f name)

theorem Mention.qualifier?_requalified (f : String → String) (m : Mention) :
    (m.requalified f).qualifier? = m.qualifier?.map f := by
  cases m <;> rfl

theorem Mention.table?_requalified (f : String → String) (m : Mention) :
    (m.requalified f).table? = m.table? := by
  cases m <;> rfl

/-- Mentions in which only the qualifiers are others. -/
def requalifiedMentions (f : String → String) (ms : List (Nat × Mention)) : List (Nat × Mention) :=
  ms.map fun m => (m.1, m.2.requalified f)

@[simp] theorem requalifiedMentions_append (f : String → String) (ms ms' : List (Nat × Mention)) :
    requalifiedMentions f (ms ++ ms') = requalifiedMentions f ms ++ requalifiedMentions f ms' :=
  List.map_append

@[simp] theorem requalifiedMentions_table (f : String → String) (d : Nat) (schema : Option String)
    (name : String) (ms : List (Nat × Mention)) :
    requalifiedMentions f ((d, .table schema name) :: ms) =
      (d, .table schema name) :: requalifiedMentions f ms := rfl

section Mentions

variable (f : String → String)

mutual

theorem Expr.mentions_requalified (d : Nat) : ∀ e : Expr,
    (e.requalified f).mentions d = requalifiedMentions f (e.mentions d)
  | .column (some _) _ => rfl
  | .column none _ => rfl
  | .star => rfl
  | .starOf _ => rfl
  | .literal _ => rfl
  | .null => rfl
  | .named e _ => Expr.mentions_requalified (d + 1) e
  | .paren e => Expr.mentions_requalified (d + 1) e
  | .cast e => Expr.mentions_requalified (d + 1) e
  | .member e p => by
    simp only [Expr.requalified, Expr.mentions, requalifiedMentions_append,
      Expr.mentions_requalified (d + 1) e, Expr.mentions_requalified (d + 1) p]
  | .index e is => by
    simp only [Expr.requalified, Expr.mentions, requalifiedMentions_append,
      Expr.mentions_requalified (d + 1) e, mentionsOfExprs_requalified (d + 1) is]
  | .keyed _ e k => by
    simp only [Expr.requalified, Expr.mentions, requalifiedMentions_append,
      Expr.mentions_requalified (d + 1) e, Expr.mentions_requalified (d + 1) k]
  | .call _ es => mentionsOfExprs_requalified (d + 1) es
  | .operation _ es => mentionsOfExprs_requalified (d + 1) es
  | .subquery q => Query.mentions_requalified (d + 1) q
  | .query q => Query.mentions_requalified d q
  | .relation i => FromItem.mentions_requalified d i

theorem Query.mentions_requalified (d : Nat) : ∀ q : Query,
    (q.requalified f).mentions d = requalifiedMentions f (q.mentions d)
  | .select s => Select.mentions_requalified d s
  | .combined _ l r cs ws => by
    simp only [Query.requalified, Query.mentions, requalifiedMentions_append,
      Query.mentions_requalified (d + 1) l, Query.mentions_requalified (d + 1) r,
      mentionsOfExprs_requalified (d + 1) cs, mentionsOfCtes_requalified d ws]
  | .values rs _ => mentionsOfExprs_requalified (d + 1) rs
  | .wrapped q _ js cs ws => by
    simp only [Query.requalified, Query.mentions, requalifiedMentions_append,
      Query.mentions_requalified (d + 1) q, mentionsOfJoins_requalified (d + 1) js,
      mentionsOfExprs_requalified (d + 1) cs, mentionsOfCtes_requalified d ws]
  | .other _ ps ws => by
    simp only [Query.requalified, Query.mentions, requalifiedMentions_append,
      mentionsOfExprs_requalified (d + 1) ps, mentionsOfCtes_requalified d ws]

theorem Select.mentions_requalified (d : Nat) : ∀ s : Select,
    (s.requalified f).mentions d = requalifiedMentions f (s.mentions d)
  | .mk is src js cs ws => by
    simp only [Select.requalified, Select.mentions, requalifiedMentions_append,
      mentionsOfExprs_requalified (d + 1) is, mentionsOfItems_requalified (d + 2) src,
      mentionsOfJoins_requalified (d + 1) js, mentionsOfExprs_requalified (d + 1) cs,
      mentionsOfCtes_requalified d ws]

theorem FromItem.mentions_requalified (d : Nat) : ∀ i : FromItem,
    (i.requalified f).mentions d = requalifiedMentions f (i.mentions d)
  | .table s n _ es js => by
    simp only [FromItem.requalified, FromItem.mentions, List.cons_append,
      requalifiedMentions_table, requalifiedMentions_append,
      mentionsOfExprs_requalified (d + 1) es, mentionsOfJoins_requalified (d + 1) js]
  | .derived q _ js => by
    simp only [FromItem.requalified, FromItem.mentions, requalifiedMentions_append,
      Query.mentions_requalified (d + 1) q, mentionsOfJoins_requalified (d + 1) js]
  | .group i cs js => by
    simp only [FromItem.requalified, FromItem.mentions, requalifiedMentions_append,
      FromItem.mentions_requalified (d + 1) i, mentionsOfExprs_requalified (d + 1) cs,
      mentionsOfJoins_requalified (d + 1) js]
  | .other _ ps js => by
    simp only [FromItem.requalified, FromItem.mentions, requalifiedMentions_append,
      mentionsOfExprs_requalified (d + 1) ps, mentionsOfJoins_requalified (d + 1) js]

theorem Join.mentions_requalified (d : Nat) : ∀ j : Join,
    (j.requalified f).mentions d = requalifiedMentions f (j.mentions d)
  | .mk i cs => by
    simp only [Join.requalified, Join.mentions, requalifiedMentions_append,
      FromItem.mentions_requalified (d + 1) i, mentionsOfExprs_requalified (d + 1) cs]

theorem Cte.mentions_requalified (d : Nat) : ∀ c : Cte,
    (c.requalified f).mentions d = requalifiedMentions f (c.mentions d)
  | .mk _ _ q => Query.mentions_requalified (d + 3) q

theorem mentionsOfExprs_requalified (d : Nat) : ∀ es : List Expr,
    mentionsOfExprs d (requalifiedExprs f es) = requalifiedMentions f (mentionsOfExprs d es)
  | [] => rfl
  | e :: es => by
    simp only [requalifiedExprs, mentionsOfExprs, requalifiedMentions_append,
      Expr.mentions_requalified d e, mentionsOfExprs_requalified d es]

theorem mentionsOfItems_requalified (d : Nat) : ∀ is : List FromItem,
    mentionsOfItems d (requalifiedItems f is) = requalifiedMentions f (mentionsOfItems d is)
  | [] => rfl
  | i :: is => by
    simp only [requalifiedItems, mentionsOfItems, requalifiedMentions_append,
      FromItem.mentions_requalified d i, mentionsOfItems_requalified d is]

theorem mentionsOfJoins_requalified (d : Nat) : ∀ js : List Join,
    mentionsOfJoins d (requalifiedJoins f js) = requalifiedMentions f (mentionsOfJoins d js)
  | [] => rfl
  | j :: js => by
    simp only [requalifiedJoins, mentionsOfJoins, requalifiedMentions_append,
      Join.mentions_requalified d j, mentionsOfJoins_requalified d js]

theorem mentionsOfCtes_requalified (d : Nat) : ∀ cs : List Cte,
    mentionsOfCtes d (requalifiedCtes f cs) = requalifiedMentions f (mentionsOfCtes d cs)
  | [] => rfl
  | c :: cs => by
    simp only [requalifiedCtes, mentionsOfCtes, requalifiedMentions_append,
      Cte.mentions_requalified d c, mentionsOfCtes_requalified d cs]

end

end Mentions

/-! ## Qualifiers, names and shapes -/

section Items

variable (f : String → String) (e : Expr)

theorem Expr.qualifiers_requalified : (e.requalified f).qualifiers = e.qualifiers.map f := by
  unfold Expr.qualifiers
  rw [e.mentions_requalified f, requalifiedMentions, List.filterMap_map, List.map_filterMap]
  exact List.filterMap_congr fun m _ => m.2.qualifier?_requalified f

theorem Expr.word_requalified : (e.requalified f).word = e.word := by
  cases e <;> rfl

theorem Expr.caption_requalified : ∀ e : Expr, (e.requalified f).caption = e.caption
  | .column _ _ | .star | .starOf _ | .literal _ | .null | .call _ _ => rfl
  | .subquery _ | .query _ | .relation _ => rfl
  | .named e _ => e.word_requalified f
  | .paren e => e.word_requalified f
  | .cast e => Expr.caption_requalified e
  | .member _ p => Expr.caption_requalified p
  | .index e _ => e.word_requalified f
  | .keyed _ e _ => e.word_requalified f
  | .operation kind [] => rfl
  | .operation kind (e :: _) => by
    simp only [Expr.requalified, requalifiedExprs, Expr.caption, e.word_requalified f]

theorem Expr.outputName_requalified : ∀ e : Expr, (e.requalified f).outputName = e.outputName
  | .column _ _ | .star | .starOf _ | .literal _ | .null | .call _ _ | .operation _ _ => rfl
  | .subquery _ | .query _ | .relation _ | .named _ _ => rfl
  | .paren e => e.caption_requalified f
  | .cast e => e.caption_requalified f
  | .member _ p => p.caption_requalified f
  | .index _ [] => rfl
  | .index _ [i] => Expr.outputName_requalified i
  | .index _ (_ :: _ :: _) => rfl
  | .keyed _ _ k => Expr.outputName_requalified k

theorem Expr.withoutParens_requalified :
    ∀ e : Expr, (e.requalified f).withoutParens = e.withoutParens.requalified f
  | .paren e => Expr.withoutParens_requalified e
  | .column _ _ | .star | .starOf _ | .literal _ | .null | .call _ _ | .operation _ _ => rfl
  | .subquery _ | .query _ | .relation _ | .named _ _ | .cast _ | .member _ _ => rfl
  | .index _ _ | .keyed _ _ _ => rfl

theorem Expr.bare_requalified : (e.requalified f).bare = e.bare.requalified f := by
  cases e <;> exact Expr.withoutParens_requalified f _

theorem Expr.isStar_requalified : (e.requalified f).isStar = e.isStar := by
  cases e <;> rfl

theorem Expr.itemName_requalified : (e.requalified f).itemName = e.itemName := by
  unfold Expr.itemName
  rw [e.outputName_requalified f]

end Items

/-- The expression without its qualifiers. -/
def Expr.erased (e : Expr) : Expr := e.requalified fun _ => ""

theorem Expr.erased_requalified (f : String → String) (e : Expr) :
    (e.requalified f).erased = e.erased :=
  e.requalified_requalified f fun _ => ""

theorem Expr.column_of_erased {e : Expr} {qualifier : Option String} {name : String}
    (h : e.erased = .column qualifier name) :
    ∃ qualifier', e = .column qualifier' name ∧ qualifier'.map (fun _ => "") = qualifier := by
  cases e with
  | column qualifier' name' =>
    cases h
    exact ⟨qualifier', rfl, rfl⟩
  | _ => cases h

theorem Expr.starOf_of_erased {e : Expr} {a : String} (h : e.erased = .starOf a) :
    ∃ a', e = .starOf a' := by
  cases e with
  | starOf a' => exact ⟨a', rfl⟩
  | _ => cases h

theorem Expr.eq_star_of_erased {e : Expr} (h : e.erased = .star) : e = .star := by
  cases e with
  | star => rfl
  | _ => cases h

/-- Parentheses around an expression count in depth alone. -/
theorem Expr.mentions_withoutParens : ∀ (e : Expr) (d : Nat),
    ∃ d', e.mentions d = e.withoutParens.mentions d'
  | .paren e, d => Expr.mentions_withoutParens e (d + 1)
  | .column _ _, d | .star, d | .starOf _, d | .literal _, d | .null, d => ⟨d, rfl⟩
  | .call _ _, d | .operation _ _, d | .subquery _, d | .query _, d | .relation _, d => ⟨d, rfl⟩
  | .named _ _, d | .cast _, d | .member _ _, d | .index _ _, d | .keyed _ _ _, d => ⟨d, rfl⟩

theorem Expr.mentions_bare (e : Expr) : ∃ d, e.mentions 0 = e.bare.mentions d := by
  cases e with
  | named e name => exact Expr.mentions_withoutParens e 1
  | _ => exact Expr.mentions_withoutParens _ 0

theorem Expr.qualifiers_of_bare {e : Expr} {a name : String} (h : e.bare = .column (some a) name) :
    e.qualifiers = [a] := by
  obtain ⟨d, hd⟩ := e.mentions_bare
  unfold Expr.qualifiers
  rw [hd, h]
  rfl

/-! ## Items that read alike -/

section Alike

variable {sources sources' : List Source} {explicit explicit' : List String} {e e' : Expr}
  {qualifier : Option String} {name : String}

theorem Expr.column_of_shape (h : e'.erased = e.erased) (hbare : e.bare = .column qualifier name) :
    ∃ qualifier', e'.bare = .column qualifier' name ∧
      qualifier'.map (fun _ => "") = qualifier.map fun _ => "" := by
  have hshape : e'.bare.erased = e.bare.erased := by
    unfold Expr.erased at h ⊢
    rw [← e'.bare_requalified, ← e.bare_requalified, h]
  rw [hbare] at hshape
  exact Expr.column_of_erased hshape

theorem Expr.origin_of_shape (h : e'.erased = e.erased)
    (hqualifiers : List.Forall₂ (Source.Agree sources sources') e.qualifiers e'.qualifiers)
    (hmarks : sources'.map (Source.mark explicit') = sources.map (Source.mark explicit)) :
    e'.origin sources' explicit' = e.origin sources explicit := by
  have hname : e'.itemName = e.itemName := by
    rw [← e'.itemName_requalified fun _ => "", ← e.itemName_requalified fun _ => ""]
    exact congrArg Expr.itemName h
  refine Expr.origin_congr hmarks hname ?_ ?_
  · intro qualifier name hbare
    obtain ⟨qualifier', hbare', hmap⟩ := Expr.column_of_shape h hbare
    refine ⟨qualifier', hbare', ?_⟩
    cases qualifier with
    | none =>
      rw [Option.map_eq_none_iff.mp hmap]
      exact .none
    | some a =>
      obtain ⟨a', rfl, -⟩ := Option.map_eq_some_iff.mp hmap
      rw [Expr.qualifiers_of_bare hbare, Expr.qualifiers_of_bare hbare'] at hqualifiers
      exact .some (List.forall₂_cons.mp hqualifiers).1
  · intro qualifier name hbare'
    obtain ⟨qualifier', hbare, -⟩ := Expr.column_of_shape h.symm hbare'
    exact ⟨qualifier', hbare⟩

/-- Items of one shape whose qualifiers agree have the same projections.  A star looks for the label
that it is written with. -/
theorem Expr.projections_of_shape (h : e'.erased = e.erased)
    (hqualifiers : List.Forall₂ (Source.Agree sources sources') e.qualifiers e'.qualifiers)
    (hmarks : sources'.map (Source.mark explicit') = sources.map (Source.mark explicit))
    (hstar : ∀ a a', e = .starOf a → e' = .starOf a' →
      (sources'.find? fun s => s.label = a').map Source.unlabelled =
        (sources.find? fun s => s.label = a).map Source.unlabelled) :
    e'.projections sources' explicit' = e.projections sources explicit := by
  have hkind : e'.isStar = e.isStar := by
    rw [← e'.isStar_requalified fun _ => "", ← e.isStar_requalified fun _ => ""]
    exact congrArg Expr.isStar h
  cases hnone : e.isStar with
  | false =>
    rw [Expr.projections_of_isStar hnone, Expr.projections_of_isStar (hkind.trans hnone),
      Expr.origin_of_shape h hqualifiers hmarks]
  | true =>
    cases e with
    | star =>
      have hrelations := congrArg (List.map fun m => Projection.wildcard m.1.relation) hmarks
      rw [List.map_map, List.map_map] at hrelations
      rw [Expr.eq_star_of_erased h]
      exact hrelations
    | starOf a =>
      obtain ⟨a', rfl⟩ := Expr.starOf_of_erased h
      have hrelation : ∀ o : Option Source,
          o.map (·.relation) = (o.map Source.unlabelled).map (·.relation) := by
        intro o
        cases o <;> rfl
      rw [Expr.projections_starOf, Expr.projections_starOf, hrelation, hstar a a' rfl rfl,
        ← hrelation]
    | _ => cases hnone

end Alike

/-! ## Queries that name the same tables -/

/-- The order of the names is that of their depths, whatever the qualifiers are. -/
theorem Select.tables_eq_erased (q : Select) : q.tables =
    ((requalifiedMentions (fun _ => "") (q.mentions 0)).mergeSort fun a b => a.1 ≤ b.1).filterMap
      fun m => m.2.table? := by
  have hsort : ((q.mentions 0).mergeSort fun a b => a.1 ≤ b.1).map
        (fun m => (m.1, m.2.requalified fun _ => "")) =
      (requalifiedMentions (fun _ => "") (q.mentions 0)).mergeSort fun a b => a.1 ≤ b.1 :=
    List.map_mergeSort fun _ _ _ _ => rfl
  rw [← hsort, List.filterMap_map]
  exact List.filterMap_congr fun m _ => (m.2.table?_requalified _).symm

theorem Select.tables_eq_of_shapes {q q' : Select}
    (hitems : q'.items.map Expr.erased = q.items.map Expr.erased)
    (hsource : mentionsOfItems 2 q'.source = mentionsOfItems 2 q.source)
    (hjoins : mentionsOfJoins 1 q'.joins = mentionsOfJoins 1 q.joins)
    (hclauses : q'.clauses = q.clauses) (hctes : q'.ctes = q.ctes) : q'.tables = q.tables := by
  rw [q'.tables_eq_erased, q.tables_eq_erased]
  obtain ⟨is, src, js, cs, ws⟩ := q
  obtain ⟨is', src', js', cs', ws'⟩ := q'
  obtain rfl : cs' = cs := hclauses
  obtain rfl : ws' = ws := hctes
  have hmentions : requalifiedMentions (fun _ => "") (mentionsOfExprs 1 is') =
      requalifiedMentions (fun _ => "") (mentionsOfExprs 1 is) := by
    rw [← mentionsOfExprs_requalified, ← mentionsOfExprs_requalified, requalifiedExprs_eq,
      requalifiedExprs_eq]
    exact congrArg (mentionsOfExprs 1) hitems
  have hsource' : mentionsOfItems 2 src' = mentionsOfItems 2 src := hsource
  have hjoins' : mentionsOfJoins 1 js' = mentionsOfJoins 1 js := hjoins
  simp only [Select.mentions, requalifiedMentions_append, hmentions, hsource', hjoins']

/-- Queries that read the same tables from the same relations, and whose items contribute the same,
have the same analysis. -/
theorem Select.analysis_congr {q q' : Select} {known : KnownRelations} {home : String}
    (hctes : q'.ctes = q.ctes) (htables : q'.tables = q.tables)
    (hsources : (q'.sources ⟨known, home, q.cteNames⟩).map (·.relation) =
      (q.sources ⟨known, home, q.cteNames⟩).map (·.relation))
    (hitems : q'.items.flatMap (q'.part known home) = q.items.flatMap (q.part known home)) :
    q'.analysis known home = q.analysis known home := by
  have hnames : q'.cteNames = q.cteNames := congrArg (List.map Cte.name) hctes
  have hread : (q'.sources ⟨known, home, q.cteNames⟩).filterMap (·.relation) =
      (q.sources ⟨known, home, q.cteNames⟩).filterMap (·.relation) := by
    have hid := congrArg (List.filterMap id) hsources
    rwa [List.filterMap_map, List.filterMap_map] at hid
  have hrelations : (q'.analysis known home).sources = (q.analysis known home).sources := by
    show q'.relations _ _ = q.relations _ _
    unfold Select.relations
    rw [hnames, htables, hread]
  exact congrArg₂ ViewAnalysis.mk hrelations hitems

end Sql
end SchemaLineage
