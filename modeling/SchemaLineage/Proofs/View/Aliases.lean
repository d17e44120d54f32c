import Mathlib.Data.List.Find
import SchemaLineage.Proofs.Outcome
import SchemaLineage.Proofs.View.References
import SchemaLineage.Proofs.View.Requalified
/-
Other aliases for the sources of a `FROM` clause.

`Select.relabelled f` gives every source of a query the alias `f a` for its alias `a`, and puts `f a`
for every qualifier `a` of the `SELECT` clause, at any depth.  An alias serves only to be compared
with qualifiers, so the analysis is the same as before if the comparisons come out the same
(`Preserves`, `Select.analysis_relabelled`).  They do when one alias gives way to a name that no
other alias and no other qualifier is like (`Select.analysis_renamed`).

The empty name is left out: a table with an empty alias goes by its own name, and a column with an
empty qualifier is sought in all sources (`emptyAlias_differs`).
-/

namespace SchemaLineage

/-- Both ways of comparing two names come out the same after renaming. -/
structure Preserves (f : String → String) (x y : String) : Prop where
  spelled : f x = f y ↔ x = y
  folded : Text.sameFolded (f x) (f y) = Text.sameFolded x y

/-- The name `b` for the name `a`. -/
def replacing (a b x : String) : String := if x = a then b else x

section Replacing

variable {a b x y : String}

theorem replacing_self (a b : String) : replacing a b a = b := if_pos rfl

theorem replacing_of_ne (h : x ≠ a) (b : String) : replacing a b x = x := if_neg h

theorem replacing_eq_empty_iff (ha : a ≠ "") (hb : b ≠ "") (x : String) :
    replacing a b x = "" ↔ x = "" := by
  by_cases h : x = a
  · rw [h, replacing_self]
    exact iff_of_false hb ha
  · rw [replacing_of_ne h]

/-- The name is like none of the two. -/
def Unlike (a b x : String) : Prop :=
  Text.sameFolded x a = false ∧ Text.sameFolded x b = false

instance (a b x : String) : Decidable (Unlike a b x) := inferInstanceAs (Decidable (_ ∧ _))

theorem ne_of_sameFolded (h : Text.sameFolded x y = false) : x ≠ y := by
  rintro rfl
  rw [Text.sameFolded_refl] at h
  cases h

theorem Unlike.preserves (h : Unlike a b x) : Preserves (replacing a b) x a := by
  have hx := replacing_of_ne (ne_of_sameFolded h.1) b
  constructor
  · rw [hx, replacing_self]
    exact iff_of_false (ne_of_sameFolded h.2) (ne_of_sameFolded h.1)
  · rw [hx, replacing_self, h.1, h.2]

theorem Preserves.symm {f : String → String} (h : Preserves f x y) : Preserves f y x := by
  constructor
  · rw [eq_comm, h.spelled, eq_comm]
  · rw [Text.sameFolded_comm, h.folded, Text.sameFolded_comm]

theorem preserves_replacing (hx : x = a ∨ Unlike a b x) (hy : y = a ∨ Unlike a b y) :
    Preserves (replacing a b) x y := by
  rcases hx with rfl | hx
  · rcases hy with rfl | hy
    · exact ⟨iff_of_true rfl rfl, by rw [Text.sameFolded_refl, Text.sameFolded_refl]⟩
    · exact hy.preserves.symm
  · rcases hy with rfl | hy
    · exact hx.preserves
    · have hx' := replacing_of_ne (ne_of_sameFolded hx.1) b
      have hy' := replacing_of_ne (ne_of_sameFolded hy.1) b
      exact ⟨by rw [hx', hy'], by rw [hx', hy']⟩

end Replacing

/-! ## Sources -/

namespace Source

def relabelled (f : String → String) (s : Source) : Source := { s with label := f s.label }

variable {f : String → String} {sources : List Source} {explicit : List String} {x : String}

theorem find?_label_relabelled (h : ∀ s ∈ sources, Preserves f s.label x) :
    ((sources.map (relabelled f)).find? fun s => s.label = f x) =
      (sources.find? fun s => s.label = x).map (relabelled f) := by
  rw [List.find?_map]
  refine congrArg (Option.map _) (List.find?_congr fun s hs => ?_)
  exact decide_eq_decide.mpr (h s hs).spelled

theorem ofQualifier?_relabelled (h : ∀ s ∈ sources, Preserves f s.label x) :
    ofQualifier? (sources.map (relabelled f)) (f x) =
      (ofQualifier? sources x).map (relabelled f) := by
  have hfolded : ((sources.map (relabelled f)).find? fun s => Text.sameFolded s.label (f x)) =
      (sources.find? fun s => Text.sameFolded s.label x).map (relabelled f) := by
    rw [List.find?_map]
    exact congrArg (Option.map _) (List.find?_congr fun s hs => (h s hs).folded)
  rw [ofQualifier?_eq, ofQualifier?_eq, find?_label_relabelled h, hfolded, Option.map_or]

theorem agree_relabelled (hf : f x = "" ↔ x = "") (h : ∀ s ∈ sources, Preserves f s.label x) :
    Agree sources (sources.map (relabelled f)) x (f x) where
  empty := hf
  denotes _ := by
    rw [ofQualifier?_relabelled h, Option.map_map]
    rfl

theorem mark_relabelled (h : ∀ s ∈ sources, ∀ x ∈ explicit, Preserves f s.label x) :
    (sources.map (relabelled f)).map (mark (explicit.map f)) = sources.map (mark explicit) := by
  rw [List.map_map]
  refine List.map_congr_left fun s hs => Prod.ext rfl ?_
  show (explicit.map f).contains (f s.label) = explicit.contains s.label
  rw [Bool.eq_iff_iff, List.contains_iff_mem, List.contains_iff_mem, List.mem_map]
  constructor
  · rintro ⟨x, hx, heq⟩
    rwa [(h s hs x hx).spelled.mp heq.symm]
  · intro hx
    exact ⟨s.label, hx, rfl⟩

end Source

namespace Sql

section Item

variable {f : String → String} {sources : List Source} {explicit : List String}

theorem Expr.projections_requalified {e : Expr} (hf : ∀ x, f x = "" ↔ x = "")
    (hqualifiers : ∀ s ∈ sources, ∀ x ∈ e.qualifiers, Preserves f s.label x)
    (hexplicit : ∀ s ∈ sources, ∀ x ∈ explicit, Preserves f s.label x) :
    (e.requalified f).projections (sources.map (Source.relabelled f)) (explicit.map f) =
      e.projections sources explicit := by
  refine Expr.projections_of_shape (e.erased_requalified f) ?_ (Source.mark_relabelled hexplicit) ?_
  · rw [e.qualifiers_requalified f, List.forall₂_map_right_iff]
    exact List.forall₂_same.mpr fun x hx =>
      Source.agree_relabelled (hf x) fun s hs => hqualifiers s hs x hx
  · intro a a' he he'
    subst he
    obtain rfl : f a = a' := Expr.starOf.inj he'
    have ha : a ∈ (Expr.starOf a).qualifiers := List.mem_singleton.mpr rfl
    rw [Source.find?_label_relabelled fun s hs => hqualifiers s hs a ha, Option.map_map]
    rfl

end Item

/-! ## Items of a clause -/

/-- The alias of a table under other names; a table that keeps its name keeps its alias. -/
def relabelledAlias (f : String → String) (name : String) (label : Option String) : Option String :=
  if f (tableAlias name label) = tableAlias name label then label
  else some (f (tableAlias name label))

theorem tableAlias_relabelled {f : String → String} (hf : ∀ x, f x = "" ↔ x = "") (name : String)
    (label : Option String) :
    tableAlias name (relabelledAlias f name label) = f (tableAlias name label) := by
  unfold relabelledAlias
  split
  · rename_i h
    exact h.symm
  · rename_i h
    have hne : f (tableAlias name label) ≠ "" := by
      intro hempty
      exact h (hempty.trans ((hf _).mp hempty).symm)
    exact if_neg (by simpa using hne)

mutual

def FromItem.relabelled (f : String → String) : FromItem → FromItem
  | .table schema name label extras joins =>
    .table schema name (relabelledAlias f name label) extras (relabelledJoins f joins)
  | .derived body label joins => .derived body (f label) (relabelledJoins f joins)
  | .group item clauses joins => .group (item.relabelled f) clauses (relabelledJoins f joins)
  | .other label parts joins => .other (f label) parts (relabelledJoins f joins)

def Join.relabelled (f : String → String) : Join → Join
  | .mk item condition => .mk (item.relabelled f) condition

def relabelledJoins (f : String → String) : List Join → List Join
  | [] => []
  | j :: js => j.relabelled f :: relabelledJoins f js

end

section Clause

variable {f : String → String}

mutual

theorem FromItem.sources_relabelled (hf : ∀ x, f x = "" ↔ x = "") (s : Scope) : ∀ i : FromItem,
    (i.relabelled f).sources s = (i.sources s).map (Source.relabelled f)
  | .table _ name label _ joins => by
    simp only [FromItem.relabelled, FromItem.sources, List.map_cons, tableAlias_relabelled hf,
      sourcesOfJoins_relabelled hf s joins, Source.relabelled]
  | .derived _ _ joins => by
    simp only [FromItem.relabelled, FromItem.sources, List.map_cons,
      sourcesOfJoins_relabelled hf s joins, Source.relabelled]
  | .group item _ joins => by
    simp only [FromItem.relabelled, FromItem.sources, List.map_append,
      FromItem.sources_relabelled hf s item, sourcesOfJoins_relabelled hf s joins]
  | .other _ _ joins => by
    simp only [FromItem.relabelled, FromItem.sources, List.map_cons,
      sourcesOfJoins_relabelled hf s joins, Source.relabelled]

theorem Join.sources_relabelled (hf : ∀ x, f x = "" ↔ x = "") (s : Scope) : ∀ j : Join,
    (j.relabelled f).sources s = (j.sources s).map (Source.relabelled f)
  | .mk item _ => FromItem.sources_relabelled hf s item

theorem sourcesOfJoins_relabelled (hf : ∀ x, f x = "" ↔ x = "") (s : Scope) : ∀ js : List Join,
    sourcesOfJoins s (relabelledJoins f js) = (sourcesOfJoins s js).map (Source.relabelled f)
  | [] => rfl
  | j :: js => by
    simp only [relabelledJoins, sourcesOfJoins, List.map_append, Join.sources_relabelled hf s j,
      sourcesOfJoins_relabelled hf s js]

end

mutual

theorem FromItem.mentions_relabelled (f : String → String) (d : Nat) : ∀ i : FromItem,
    (i.relabelled f).mentions d = i.mentions d
  | .table _ _ _ _ joins => by
    simp only [FromItem.relabelled, FromItem.mentions, mentionsOfJoins_relabelled f (d + 1) joins]
  | .derived _ _ joins => by
    simp only [FromItem.relabelled, FromItem.mentions, mentionsOfJoins_relabelled f (d + 1) joins]
  | .group item _ joins => by
    simp only [FromItem.relabelled, FromItem.mentions, FromItem.mentions_relabelled f (d + 1) item,
      mentionsOfJoins_relabelled f (d + 1) joins]
  | .other _ _ joins => by
    simp only [FromItem.relabelled, FromItem.mentions, mentionsOfJoins_relabelled f (d + 1) joins]

theorem Join.mentions_relabelled (f : String → String) (d : Nat) : ∀ j : Join,
    (j.relabelled f).mentions d = j.mentions d
  | .mk item _ => by
    simp only [Join.relabelled, Join.mentions, FromItem.mentions_relabelled f (d + 1) item]

theorem mentionsOfJoins_relabelled (f : String → String) (d : Nat) : ∀ js : List Join,
    mentionsOfJoins d (relabelledJoins f js) = mentionsOfJoins d js
  | [] => rfl
  | j :: js => by
    simp only [relabelledJoins, mentionsOfJoins, Join.mentions_relabelled f d j,
      mentionsOfJoins_relabelled f d js]

end

theorem mentionsOfItems_relabelled (f : String → String) (d : Nat) (is : List FromItem) :
    mentionsOfItems d (is.map (FromItem.relabelled f)) = mentionsOfItems d is := by
  induction is with
  | nil => rfl
  | cons i is ih => rw [List.map_cons, mentionsOfItems, i.mentions_relabelled, ih, mentionsOfItems]

end Clause

/-! ## Queries -/

namespace Select

/-- The query with other aliases for its sources, and with other qualifiers in its `SELECT` clause.
What stands in its other clauses is not followed anywhere, and stays as it is. -/
def relabelled (f : String → String) : Select → Select
  | .mk items source joins clauses ctes =>
    .mk (requalifiedExprs f items) (source.map (FromItem.relabelled f)) (relabelledJoins f joins)
      clauses ctes

/-- All that the items' columns are said to belong to. -/
def qualifiers (q : Select) : List String := q.items.flatMap Expr.qualifiers

section Relabelled

variable {f : String → String} {q : Select} {known : KnownRelations} {home : String}

theorem items_relabelled (f : String → String) (q : Select) :
    (q.relabelled f).items = q.items.map (Expr.requalified f) := by
  cases q
  exact requalifiedExprs_eq f _

theorem ctes_relabelled (f : String → String) (q : Select) : (q.relabelled f).ctes = q.ctes := by
  cases q
  rfl

theorem sources_relabelled (hf : ∀ x, f x = "" ↔ x = "") (s : Scope) (q : Select) :
    (q.relabelled f).sources s = (q.sources s).map (Source.relabelled f) := by
  obtain ⟨is, src, js, cs, ws⟩ := q
  have hsource : (src.map (FromItem.relabelled f)).flatMap (FromItem.sources s) =
      (src.flatMap (FromItem.sources s)).map (Source.relabelled f) := by
    rw [List.flatMap_map, List.map_flatMap]
    exact congrArg (src.flatMap ·) (funext fun i => i.sources_relabelled hf s)
  show (src.map (FromItem.relabelled f)).flatMap (FromItem.sources s) ++
    sourcesOfJoins s (relabelledJoins f js) =
      (src.flatMap (FromItem.sources s) ++ sourcesOfJoins s js).map (Source.relabelled f)
  rw [List.map_append, hsource, sourcesOfJoins_relabelled hf]

theorem tables_relabelled (f : String → String) (q : Select) :
    (q.relabelled f).tables = q.tables := by
  have hitems : (q.relabelled f).items.map Expr.erased = q.items.map Expr.erased := by
    rw [items_relabelled, List.map_map]
    exact List.map_congr_left fun e _ => e.erased_requalified f
  cases q
  exact Select.tables_eq_of_shapes hitems (mentionsOfItems_relabelled f 2 _)
    (mentionsOfJoins_relabelled f 1 _) rfl rfl

theorem explicit_relabelled (hf : ∀ x, f x = "" ↔ x = "") (q : Select) :
    (q.relabelled f).explicit = q.explicit.map f := by
  have hqualifiers : (q.items.map (Expr.requalified f)).flatMap Expr.qualifiers =
      q.qualifiers.map f := by
    rw [List.flatMap_map, Select.qualifiers, List.map_flatMap]
    exact congrArg (q.items.flatMap ·) (funext fun e => e.qualifiers_requalified f)
  unfold Select.explicit
  rw [items_relabelled, hqualifiers, List.filter_map]
  refine congrArg (List.map f) (List.filter_congr fun x _ => congrArg Bool.not ?_)
  rw [Bool.eq_iff_iff, String.isEmpty_iff, String.isEmpty_iff, hf x]

/-- If every alias compares with every qualifier as before, the analysis is as before. -/
theorem analysis_relabelled (hf : ∀ x, f x = "" ↔ x = "")
    (h : ∀ s ∈ q.sources ⟨known, home, q.cteNames⟩, ∀ x ∈ q.qualifiers, Preserves f s.label x) :
    (q.relabelled f).analysis known home = q.analysis known home := by
  have hnames : (q.relabelled f).cteNames = q.cteNames :=
    congrArg (List.map Cte.name) (q.ctes_relabelled f)
  refine Select.analysis_congr (q.ctes_relabelled f) (q.tables_relabelled f) ?_ ?_
  · rw [sources_relabelled hf, List.map_map]
    rfl
  · rw [items_relabelled, List.flatMap_map]
    refine List.flatMap_congr fun e he => ?_
    have hitem : ∀ x ∈ e.qualifiers, x ∈ q.qualifiers :=
      fun x hx => List.mem_flatMap.mpr ⟨e, he, hx⟩
    unfold Select.part
    rw [hnames, sources_relabelled hf, explicit_relabelled hf]
    exact Expr.projections_requalified hf (fun s hs x hx => h s hs x (hitem x hx))
      fun s hs x hx => h s hs x (List.mem_filter.mp hx).1

end Relabelled

/-- One alias may give way to any name that is not empty and that no other alias and no other
qualifier is like. -/
theorem analysis_renamed {q : Select} {known : KnownRelations} {home a b : String} (ha : a ≠ "")
    (hb : b ≠ "") {before after : List Source} {s : Source}
    (hsources : q.sources ⟨known, home, q.cteNames⟩ = before ++ s :: after) (hs : s.label = a)
    (hlabels : ∀ t ∈ before ++ after, Unlike a b t.label)
    (hqualifiers : ∀ x ∈ q.qualifiers, x ≠ a → Unlike a b x) :
    (q.relabelled (replacing a b)).sources ⟨known, home, q.cteNames⟩ =
      before ++ { s with label := b } :: after ∧
    (q.relabelled (replacing a b)).analysis known home = q.analysis known home := by
  have hkept : ∀ t ∈ before ++ after, t.relabelled (replacing a b) = t := by
    intro t ht
    have hne : t.label ≠ a := ne_of_sameFolded (hlabels t ht).1
    unfold Source.relabelled
    rw [replacing_of_ne hne]
  have hmap : ∀ ts : List Source, (∀ t ∈ ts, t ∈ before ++ after) →
      ts.map (Source.relabelled (replacing a b)) = ts := by
    intro ts hts
    exact (List.map_congr_left fun t ht => hkept t (hts t ht)).trans (List.map_id _)
  constructor
  · rw [sources_relabelled (replacing_eq_empty_iff ha hb), hsources, List.map_append, List.map_cons,
      hmap before fun t ht => List.mem_append_left _ ht,
      hmap after fun t ht => List.mem_append_right _ ht]
    unfold Source.relabelled
    rw [hs, replacing_self]
  · refine analysis_relabelled (replacing_eq_empty_iff ha hb) fun t ht x hx => ?_
    refine preserves_replacing ?_ (or_iff_not_imp_left.mpr (hqualifiers x hx))
    rw [hsources, List.mem_append, List.mem_cons] at ht
    rcases ht with ht | rfl | ht
    · exact .inr (hlabels t (List.mem_append_left _ ht))
    · exact .inl hs
    · exact .inr (hlabels t (List.mem_append_right _ ht))

end Select

/-- `SELECT o.*, c.name, upper(o.id), total FROM orders AS o, public."Customers" AS c` -/
def ordersStarred : Select :=
  .mk [.starOf "o", .column (some "c") "name",
      .operation "Upper" [.column (some "o") "id"], .column none "total"]
    [ordersItem] [.mk customersItem []] [] []

/-- The table of orders may go by the name of another table that is known. -/
theorem ordersStarred_renamed :
    (ordersStarred.relabelled (replacing "o" "customers")).sources
        ⟨ordersAndCustomers, "public", []⟩ =
      [⟨"customers", some ordersRef, some ["id", "customer_id", "total"]⟩,
        ⟨"c", some customersRef, some ["id", "name"]⟩] ∧
    (ordersStarred.relabelled (replacing "o" "customers")).analysis ordersAndCustomers "public" =
      ordersStarred.analysis ordersAndCustomers "public" ∧
    (ordersStarred.analysis ordersAndCustomers "public").projections =
      [.wildcard (some ordersRef), .direct customersRef "name" "name", .untraced "?column?",
        .direct ordersRef "total" "total"] := by
  have hsources : ordersStarred.sources ⟨ordersAndCustomers, "public", ordersStarred.cteNames⟩ =
      [] ++ ⟨"o", some ordersRef, some ["id", "customer_id", "total"]⟩ ::
        [⟨"c", some customersRef, some ["id", "name"]⟩] := by decide +kernel
  have hqualifiers : ordersStarred.qualifiers = ["o", "c", "o"] := by decide +kernel
  obtain ⟨hrelabelled, hanalysis⟩ := Select.analysis_renamed (a := "o") (b := "customers")
    (by decide) (by decide) hsources rfl (by decide +kernel) (by rw [hqualifiers]; decide +kernel)
  exact ⟨hrelabelled, hanalysis, by decide +kernel⟩

/-- A column of a derived table, beside a table that has a column of the same name. -/
def derivedQuery (a : String) : String :=
  "SELECT " ++ a ++ ".name FROM (SELECT 1 AS id) AS " ++ a ++ ", customers AS c"

/-- Under an empty alias the derived table is not the one that the column is sought in. -/
theorem emptyAlias_differs :
    (∃ q, selectOf (.named "postgres") (some (derivedQuery "s")) = .ok q ∧
      q.sources ⟨ordersAndCustomers, "public", q.cteNames⟩ =
        [⟨"s", none, some ["id"]⟩, ⟨"c", some customersRef, some ["id", "name"]⟩] ∧
      q.qualifiers = ["s"] ∧ Unlike "s" "" "c" ∧
      (q.analysis ordersAndCustomers "public").projections = [.untraced "name"] ∧
      ((q.relabelled (replacing "s" "")).analysis ordersAndCustomers "public").projections =
        [.direct customersRef "name" "name"]) ∧
    ∃ q, selectOf (.named "postgres") (some (derivedQuery "\"\"")) = .ok q ∧
      (q.analysis ordersAndCustomers "public").projections =
        [.direct customersRef "name" "name"] := by
  have hnamed : (selectOf (.named "postgres") (some (derivedQuery "s"))).toOption.map (fun q =>
      (q.sources ⟨ordersAndCustomers, "public", q.cteNames⟩, q.qualifiers,
        (q.analysis ordersAndCustomers "public").projections,
        ((q.relabelled (replacing "s" "")).analysis ordersAndCustomers "public").projections)) =
      some ([⟨"s", none, some ["id"]⟩, ⟨"c", some customersRef, some ["id", "name"]⟩], ["s"],
        [.untraced "name"], [.direct customersRef "name" "name"]) := by
    decide +kernel
  have hempty : (selectOf (.named "postgres") (some (derivedQuery "\"\""))).toOption.map (fun q =>
      (q.analysis ordersAndCustomers "public").projections) =
      some [.direct customersRef "name" "name"] := by
    decide +kernel
  obtain ⟨q, hq, heq⟩ := ok_of_map_toOption hnamed
  obtain ⟨hsources, heq⟩ := Prod.mk.inj heq
  obtain ⟨hqualifiers, heq⟩ := Prod.mk.inj heq
  obtain ⟨hbefore, hafter⟩ := Prod.mk.inj heq
  exact ⟨⟨q, hq, hsources, hqualifiers, by decide +kernel, hbefore, hafter⟩,
    ok_of_map_toOption hempty⟩

end Sql
end SchemaLineage
