import Mathlib.Data.List.Pairwise
import SchemaLineage.Proofs.View.Leaves
import SchemaLineage.Proofs.View.WellFormed
/-
The order of a `FROM` clause decides only the order of stars.

When the items of a clause are rearranged (`Select.Rearranged`), the sources are too.  If no
qualifier fits two of them (`Source.Apart`), a column is followed to the same origin as before: the
first source that a qualifier fits is the only one, and without a qualifier the sources count as a
whole.  A star stands for the relations of the items in their order.  Which relations the query
reads does not depend on where it names them (`Select.tables_perm_tableNames`).
-/

namespace SchemaLineage

/-! ## Sources apart -/

/-- No qualifier fits both sources.  Those that have neither a label nor a relation may be alike. -/
def Source.Apart (s t : Source) : Prop :=
  Text.sameFolded s.label t.label = false ∨
    (s.label = "" ∧ t.label = "") ∧ s.relation = none ∧ t.relation = none

namespace Source

variable {s t : Source} {sources sources' : List Source} {a : String}

instance : Std.Symm Apart where
  symm s t h := by
    rcases h with h | ⟨⟨hs, ht⟩, hrs, hrt⟩
    · exact .inl (by rw [Text.sameFolded_comm]; exact h)
    · exact .inr ⟨⟨ht, hs⟩, hrt, hrs⟩

instance (s t : Source) : Decidable (s.Apart t) := inferInstanceAs (Decidable (_ ∨ _))

/-- A name that has letters fits one source at most. -/
theorem Apart.not_both (h : s.Apart t) (ha : a ≠ "") (hs : Text.sameFolded s.label a = true) :
    Text.sameFolded t.label a = false := by
  rcases h with h | ⟨⟨hlabel, -⟩, -⟩
  · by_contra ht
    rw [Bool.not_eq_false, Text.sameFolded_comm] at ht
    rw [Text.sameFolded_trans hs ht] at h
    cases h
  · rw [hlabel] at hs
    exact absurd (Text.sameFolded_empty.mp hs) ha

theorem Apart.relation_eq (h : s.Apart t) (hlabel : s.label = t.label) :
    s.relation = t.relation := by
  rcases h with h | ⟨-, hs, ht⟩
  · rw [hlabel, Text.sameFolded_refl] at h
    cases h
  · rw [hs, ht]

end Source

/-- A search that ends the same wherever it stops does not depend on the order. -/
theorem find?_map_of_perm {α β : Type} {p : α → Bool} {g : α → β} {l l' : List α} (h : l.Perm l')
    (hsame : ∀ x ∈ l, ∀ y ∈ l, p x = true → p y = true → g x = g y) :
    (l.find? p).map g = (l'.find? p).map g := by
  cases hx : l.find? p with
  | none =>
    have hnone : l'.find? p = none := by
      rw [List.find?_eq_none] at hx ⊢
      exact fun y hy => hx y (h.mem_iff.mpr hy)
    rw [hnone]
  | some x =>
    obtain ⟨y, hy⟩ : ∃ y, l'.find? p = some y := by
      rw [← Option.isSome_iff_exists, List.find?_isSome]
      exact ⟨x, h.mem_iff.mp (List.mem_of_find?_eq_some hx), List.find?_some hx⟩
    rw [hy]
    exact congrArg some (hsame x (List.mem_of_find?_eq_some hx) y
      (h.mem_iff.mpr (List.mem_of_find?_eq_some hy)) (List.find?_some hx) (List.find?_some hy))

namespace Source

variable {sources sources' : List Source}

theorem ofQualifier?_of_perm (h : sources.Perm sources') (hapart : sources.Pairwise Apart)
    {a : String} (ha : a ≠ "") : ofQualifier? sources a = ofQualifier? sources' a := by
  have hone : ∀ s ∈ sources, ∀ t ∈ sources, Text.sameFolded s.label a = true →
      Text.sameFolded t.label a = true → s = t := by
    intro s hs t ht hsa hta
    by_contra hne
    rw [(hapart.forall hs ht hne).not_both ha hsa] at hta
    cases hta
  have hfolded := find?_map_of_perm (g := id) h hone
  have hspelled := find?_map_of_perm (p := fun s : Source => s.label = a) (g := id) h
    fun s hs t ht hsa hta => by
      refine hone s hs t ht ?_ ?_
      · rw [of_decide_eq_true hsa, Text.sameFolded_refl]
      · rw [of_decide_eq_true hta, Text.sameFolded_refl]
  rw [Option.map_id, id_eq] at hfolded hspelled
  rw [ofQualifier?_eq, ofQualifier?_eq, hfolded, hspelled]
  rfl

end Source

namespace Sql

section Projections

variable {sources sources' : List Source}

theorem Expr.origin_of_perm (h : sources.Perm sources') (hapart : sources.Pairwise Source.Apart)
    (explicit : List String) (item : Expr) :
    item.origin sources explicit = item.origin sources' explicit := by
  unfold Expr.origin
  split
  · rename_i qualifier name hbare
    rcases qualifier_cases qualifier with hnone | ⟨a, ha, rfl⟩
    · rw [originOf_bare hnone, originOf_bare hnone]
      exact bareOrigin_perm (h.map _)
    · rw [originOf_qualified ha, originOf_qualified ha, Source.ofQualifier?_of_perm h hapart ha]
  · rfl

/-- Among the same sources an item has the same projections, unless it stands for all of them. -/
theorem Expr.projections_of_perm (h : sources.Perm sources')
    (hapart : sources.Pairwise Source.Apart) (explicit : List String) {item : Expr}
    (hitem : item ≠ .star) :
    item.projections sources explicit = item.projections sources' explicit := by
  cases hstar : item.isStar with
  | false =>
    rw [Expr.projections_of_isStar hstar, Expr.projections_of_isStar hstar,
      Expr.origin_of_perm h hapart]
  | true =>
    cases item with
    | star => exact absurd rfl hitem
    | starOf a =>
      have hrelation : ∀ s ∈ sources, ∀ t ∈ sources, decide (s.label = a) = true →
          decide (t.label = a) = true → s.relation = t.relation := by
        intro s hs t ht hsa hta
        by_cases heq : s = t
        · rw [heq]
        · exact (hapart.forall hs ht heq).relation_eq
            ((of_decide_eq_true hsa).trans (of_decide_eq_true hta).symm)
      rw [Expr.projections_starOf, Expr.projections_starOf, find?_map_of_perm h hrelation]
    | _ => cases hstar

end Projections

/-! ## What a query names -/

/-- The tables that an expression names, in no particular depth. -/
def Expr.tableNames (e : Expr) : List (Option String × String) := tablesOf (e.mentions 0)

def FromItem.tableNames (i : FromItem) : List (Option String × String) := tablesOf (i.mentions 0)

theorem Expr.tablesOf_mentions (e : Expr) (d : Nat) : tablesOf (e.mentions d) = e.tableNames :=
  (e.references_keys [] d).symm.trans (e.references_keys [] 0)

theorem FromItem.tablesOf_mentions (i : FromItem) (d : Nat) : tablesOf (i.mentions d) = i.tableNames :=
  (i.references_keys [] d).symm.trans (i.references_keys [] 0)

theorem tablesOf_exprs (d : Nat) (es : List Expr) :
    tablesOf (mentionsOfExprs d es) = es.flatMap Expr.tableNames := by
  induction es with
  | nil => rfl
  | cons e es ih =>
    rw [mentionsOfExprs, tablesOf_append, e.tablesOf_mentions, ih, List.flatMap_cons]

theorem tablesOf_items (d : Nat) (is : List FromItem) :
    tablesOf (mentionsOfItems d is) = is.flatMap FromItem.tableNames := by
  induction is with
  | nil => rfl
  | cons i is ih =>
    rw [mentionsOfItems, tablesOf_append, i.tablesOf_mentions, ih, List.flatMap_cons]

def Join.condition : Join → List Expr
  | .mk _ condition => condition

theorem tablesOf_joins (d : Nat) (js : List Join) : (tablesOf (mentionsOfJoins d js)).Perm
    ((js.map Join.item).flatMap FromItem.tableNames ++
      (js.flatMap Join.condition).flatMap Expr.tableNames) := by
  have hjoins : tablesOf (mentionsOfJoins d js) =
      js.flatMap fun j => j.item.tableNames ++ j.condition.flatMap Expr.tableNames := by
    induction js with
    | nil => rfl
    | cons j js ih =>
      obtain ⟨item, condition⟩ := j
      rw [mentionsOfJoins, Join.mentions, tablesOf_append, tablesOf_append, ih,
        item.tablesOf_mentions, tablesOf_exprs, List.flatMap_cons]
      rfl
  rw [hjoins, List.flatMap_map, List.flatMap_assoc]
  exact (List.flatMap_append_perm js _ _).symm

namespace Select

/-- The conditions under which items are joined. -/
def conditions (q : Select) : List Expr := q.joins.flatMap Join.condition

/-- A query names what its items, its clauses and its conditions name, wherever they stand. -/
theorem tables_perm_tableNames (q : Select) : q.tables.Perm
    (q.items.flatMap Expr.tableNames ++ (q.fromItems.flatMap FromItem.tableNames ++
      q.conditions.flatMap Expr.tableNames) ++ q.clauses.flatMap Expr.tableNames ++
      tablesOf (mentionsOfCtes 0 q.ctes)) := by
  refine q.tables_perm.trans ?_
  obtain ⟨is, src, js, cs, ws⟩ := q
  rw [Select.mentions]
  simp only [tablesOf_append, tablesOf_exprs, tablesOf_items, fromItems, List.flatMap_append,
    List.append_assoc]
  refine List.Perm.append_left _ (List.Perm.append_left _ ?_)
  rw [← List.append_assoc, ← List.append_assoc, ← List.append_assoc]
  exact ((tablesOf_joins 1 js).append_right _).append_right _

/-- The same query but for the order of the items of its clause, and of the conditions with them. -/
structure Rearranged (q q' : Select) : Prop where
  items : q'.items = q.items
  fromItems : q.fromItems.Perm q'.fromItems
  conditions : q.conditions.Perm q'.conditions
  clauses : q'.clauses = q.clauses
  ctes : q'.ctes = q.ctes

namespace Rearranged

variable {q q' : Select} {known : KnownRelations} {home : String}

theorem tables (h : q.Rearranged q') : q.tables.Perm q'.tables := by
  refine q.tables_perm_tableNames.trans (List.Perm.trans ?_ q'.tables_perm_tableNames.symm)
  rw [h.items, h.clauses, h.ctes]
  have hclause := (h.fromItems.flatMap_right FromItem.tableNames).append
    (h.conditions.flatMap_right Expr.tableNames)
  exact ((hclause.append_left _).append_right _).append_right _

theorem sources (h : q.Rearranged q') (s : Scope) : (q.sources s).Perm (q'.sources s) := by
  rw [q.sources_eq_fromItems, q'.sources_eq_fromItems]
  exact h.fromItems.flatMap_right _

theorem cteNames (h : q.Rearranged q') : q'.cteNames = q.cteNames := by
  unfold Select.cteNames
  rw [h.ctes]

theorem explicit (h : q.Rearranged q') : q'.explicit = q.explicit := by
  unfold Select.explicit
  rw [h.items]

theorem part (h : q.Rearranged q')
    (hapart : (q.sources ⟨known, home, q.cteNames⟩).Pairwise Source.Apart) {item : Expr}
    (hitem : item ≠ .star) : q'.part known home item = q.part known home item := by
  unfold Select.part
  rw [h.cteNames, h.explicit]
  exact (Expr.projections_of_perm (h.sources _) hapart q.explicit hitem).symm

theorem mem_sources (h : q.Rearranged q') (r : RelationRef) :
    r ∈ (q.analysis known home).sources ↔ r ∈ (q'.analysis known home).sources := by
  rw [Select.mem_sources_iff, Select.mem_sources_iff, h.cteNames]
  simp only [h.tables.mem_iff]

end Rearranged

end Select

/-- The stars that an item of the clause stands for: one for each source that it brings. -/
def FromItem.wildcards (s : Scope) (i : FromItem) : List Projection :=
  (i.sources s).map fun source => .wildcard source.relation

namespace Select

theorem part_star (q : Select) (known : KnownRelations) (home : String) :
    q.part known home .star = q.fromItems.flatMap (FromItem.wildcards ⟨known, home, q.cteNames⟩) := by
  show (q.sources _).map _ = _
  rw [q.sources_eq_fromItems, List.map_flatMap]
  rfl

/-- When the items of a clause are rearranged, the relations stay the same, every item contributes
the same, and an unqualified star the same for each item of the clause, in the new order. -/
theorem analysis_rearranged {q q' : Select} (h : q.Rearranged q') (known : KnownRelations)
    (home : String) (hapart : (q.sources ⟨known, home, q.cteNames⟩).Pairwise Source.Apart) :
    (q.analysis known home).projections = q.items.flatMap (q.part known home) ∧
    (q'.analysis known home).projections = q.items.flatMap (q'.part known home) ∧
    (∀ item ∈ q.items, item ≠ .star → q'.part known home item = q.part known home item) ∧
    q.part known home .star =
      q.fromItems.flatMap (FromItem.wildcards ⟨known, home, q.cteNames⟩) ∧
    q'.part known home .star =
      q'.fromItems.flatMap (FromItem.wildcards ⟨known, home, q.cteNames⟩) ∧
    (q.analysis known home).sources.Perm (q'.analysis known home).sources := by
  refine ⟨q.projections_eq known home, ?_, fun item _ hitem => h.part hapart hitem,
    q.part_star known home, ?_, ?_⟩
  · rw [q'.projections_eq known home, h.items]
  · rw [q'.part_star known home, h.cteNames]
  · exact (List.perm_ext_iff_of_nodup (q.sources_nodup known home)
      (q'.sources_nodup known home)).mpr h.mem_sources

end Select

/-- `SELECT c.name, total, * FROM … JOIN … ON o.customer_id = c.id` -/
def ordersJoined (first second : FromItem) : Select :=
  .mk [.column (some "c") "name", .column none "total", .star] [first]
    [.mk second [.operation "EQ" [.column (some "o") "customer_id", .column (some "c") "id"]]] [] []

/-- Two tables that change places, one of them written with its schema and in another case. -/
theorem ordersJoined_rearranged :
    (ordersJoined ordersItem customersItem).Rearranged (ordersJoined customersItem ordersItem) ∧
    ((ordersJoined ordersItem customersItem).sources ⟨ordersAndCustomers, "public", []⟩).Pairwise
      Source.Apart ∧
    (∀ item ∈ (ordersJoined ordersItem customersItem).items, item ≠ .star →
      (ordersJoined customersItem ordersItem).part ordersAndCustomers "public" item =
        (ordersJoined ordersItem customersItem).part ordersAndCustomers "public" item) ∧
    (ordersJoined ordersItem customersItem).part ordersAndCustomers "public" .star =
      [.wildcard (some ordersRef), .wildcard (some customersRef)] ∧
    (ordersJoined customersItem ordersItem).part ordersAndCustomers "public" .star =
      [.wildcard (some customersRef), .wildcard (some ordersRef)] ∧
    ((ordersJoined ordersItem customersItem).analysis ordersAndCustomers "public").sources.Perm
      ((ordersJoined customersItem ordersItem).analysis ordersAndCustomers "public").sources := by
  have h : (ordersJoined ordersItem customersItem).Rearranged
      (ordersJoined customersItem ordersItem) :=
    ⟨rfl, .swap _ _ _, .refl _, rfl, rfl⟩
  have hapart : ((ordersJoined ordersItem customersItem).sources
      ⟨ordersAndCustomers, "public", []⟩).Pairwise Source.Apart := by decide +kernel
  obtain ⟨-, -, hsame, -, -, hsources⟩ :=
    Select.analysis_rearranged h ordersAndCustomers "public" hapart
  exact ⟨h, hapart, hsame, by decide +kernel, by decide +kernel, hsources⟩

end Sql
end SchemaLineage
