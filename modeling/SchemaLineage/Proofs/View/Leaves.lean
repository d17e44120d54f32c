import Mathlib.Data.List.Basic
import SchemaLineage.Proofs.View.Parts
import SchemaLineage.Proofs.View.References
/-
What a `FROM` clause brings into scope is its leaves, from left to right.

A leaf is a table, a derived table or another item by itself.  In a clause it stands at a place: the
number of the item of the clause, and inside an item `0` for what stands before the joins, or `k + 1`
for the join number `k`, and so on inwards (`FromItem.LeafAt`).  In the order of places a leaf comes
first whose item is written first, however joins and parentheses are nested.

`Select.leaves` lists the leaves of a clause with their places.  The list ascends, and it has what
stands at some place and nothing else, so each leaf occurs once.  The sources of the query are read
off it, and so is what a star contributes.
-/

namespace SchemaLineage
namespace Sql

/-- An item of a `FROM` clause without joins and parentheses. -/
inductive Leaf where
  | table (schema : Option String) (name : String) (label : Option String)
  | derived (body : Query) (label : String)
  | other (label : String)

namespace Leaf

/-- The relation that a table's name denotes.  A name that `WITH` binds denotes none, and neither
does what is no table. -/
def relation (s : Scope) : Leaf → Option RelationRef
  | table schema name _ =>
    if schema = none ∧ name ∈ s.ctes then none else s.known.lookup s.home schema name
  | derived _ _ => none
  | other _ => none

def label : Leaf → String
  | table _ name label => tableAlias name label
  | derived _ label => label
  | other label => label

/-- The columns of a relation that is known, or those that a derived table names. -/
def columns (s : Scope) : Leaf → Option (List String)
  | table schema name label => ((table schema name label).relation s).bind s.known.columns?
  | derived body _ => body.columns?
  | other _ => none

def source (s : Scope) (l : Leaf) : Source := ⟨l.label, l.relation s, l.columns s⟩

end Leaf

/-- The leaf at a place of an item. -/
inductive FromItem.LeafAt : FromItem → List Nat → Leaf → Prop
  | table (schema : Option String) (name : String) (label : Option String) (extras : List Expr)
      (joins : List Join) :
      LeafAt (.table schema name label extras joins) [0] (.table schema name label)
  | derived (body : Query) (label : String) (joins : List Join) :
      LeafAt (.derived body label joins) [0] (.derived body label)
  | other (label : String) (parts : List Expr) (joins : List Join) :
      LeafAt (.other label parts joins) [0] (.other label)
  | inside {item : FromItem} {p : List Nat} {l : Leaf} (clauses : List Expr) (joins : List Join)
      (h : LeafAt item p l) : LeafAt (.group item clauses joins) (0 :: p) l
  | joined {item : FromItem} {join : Join} {k : Nat} {p : List Nat} {l : Leaf}
      (hjoin : item.joins[k]? = some join) (h : LeafAt join.item p l) : LeafAt item ((k + 1) :: p) l

namespace Select

/-- The items of the clause at its outermost level: those after `FROM` with their commas, then those
that are joined to them. -/
def fromItems (q : Select) : List FromItem := q.source ++ q.joins.map Join.item

/-- The leaf at a place of the clause. -/
def LeafAt (q : Select) (p : List Nat) (l : Leaf) : Prop :=
  ∃ k item p', p = k :: p' ∧ q.fromItems[k]? = some item ∧ item.LeafAt p' l

end Select

/-! ## Listing the leaves -/

/-- Leaves further inwards. -/
def under (k : Nat) (ls : List (List Nat × Leaf)) : List (List Nat × Leaf) :=
  ls.map fun a => (k :: a.1, a.2)

mutual

def FromItem.leaves : FromItem → List (List Nat × Leaf)
  | .table schema name label _ joins => ([0], .table schema name label) :: leavesOfJoins 1 joins
  | .derived body label joins => ([0], .derived body label) :: leavesOfJoins 1 joins
  | .group item _ joins => under 0 item.leaves ++ leavesOfJoins 1 joins
  | .other label _ joins => ([0], .other label) :: leavesOfJoins 1 joins

def Join.leaves : Join → List (List Nat × Leaf)
  | .mk item _ => item.leaves

/-- The leaves of joins that are numbered from `k` on. -/
def leavesOfJoins (k : Nat) : List Join → List (List Nat × Leaf)
  | [] => []
  | j :: js => under k j.leaves ++ leavesOfJoins (k + 1) js

end

/-- The leaves of items that are numbered from `k` on. -/
def leavesOfItems (k : Nat) : List FromItem → List (List Nat × Leaf)
  | [] => []
  | i :: is => under k i.leaves ++ leavesOfItems (k + 1) is

def Select.leaves (q : Select) : List (List Nat × Leaf) := leavesOfItems 0 q.fromItems

@[simp] theorem mem_under {k : Nat} {ls : List (List Nat × Leaf)} {p : List Nat} {l : Leaf} :
    (p, l) ∈ under k ls ↔ ∃ p', p = k :: p' ∧ (p', l) ∈ ls := by
  unfold under
  rw [List.mem_map]
  constructor
  · rintro ⟨⟨p', l'⟩, hmem, heq⟩
    cases heq
    exact ⟨p', rfl, hmem⟩
  · rintro ⟨p', rfl, hmem⟩
    exact ⟨(p', l), hmem, rfl⟩

theorem leavesOfJoins_eq (k : Nat) (js : List Join) :
    leavesOfJoins k js = leavesOfItems k (js.map Join.item) := by
  induction js generalizing k with
  | nil => rfl
  | cons j js ih =>
    obtain ⟨item, condition⟩ := j
    simp only [leavesOfJoins, List.map_cons, leavesOfItems, ih]
    rfl

theorem mem_leavesOfItems {is : List FromItem} {k : Nat} {p : List Nat} {l : Leaf} :
    (p, l) ∈ leavesOfItems k is ↔
      ∃ n item p', p = (k + n) :: p' ∧ is[n]? = some item ∧ (p', l) ∈ item.leaves := by
  induction is generalizing k with
  | nil => simp [leavesOfItems]
  | cons i is ih =>
    simp only [leavesOfItems, List.mem_append, mem_under, ih]
    constructor
    · rintro (⟨p', rfl, hmem⟩ | ⟨n, item, p', rfl, hitem, hmem⟩)
      · exact ⟨0, i, p', rfl, rfl, hmem⟩
      · exact ⟨n + 1, item, p', by rw [Nat.add_assoc, Nat.add_comm 1], hitem, hmem⟩
    · rintro ⟨n, item, p', rfl, hitem, hmem⟩
      cases n with
      | zero =>
        cases hitem
        exact .inl ⟨p', rfl, hmem⟩
      | succ n => exact .inr ⟨n, item, p', by rw [Nat.add_assoc, Nat.add_comm 1], hitem, hmem⟩

theorem Join.sizeOf_item_lt {join : Join} {joins : List Join} (h : join ∈ joins) :
    sizeOf join.item < sizeOf joins := by
  have hmem := List.sizeOf_lt_of_mem h
  obtain ⟨item, condition⟩ := join
  simp only [Join.mk.sizeOf_spec] at hmem
  simp only [Join.item]
  omega

/-- What holds of an item whenever it holds of all that is joined to it, and of what is in its
parentheses. -/
@[elab_as_elim]
theorem FromItem.induct {motive : FromItem → Prop}
    (table : ∀ schema name label extras joins, (∀ join ∈ joins, motive (Join.item join)) →
      motive (.table schema name label extras joins))
    (derived : ∀ body label joins, (∀ join ∈ joins, motive (Join.item join)) →
      motive (.derived body label joins))
    (group : ∀ item clauses joins, motive item → (∀ join ∈ joins, motive (Join.item join)) →
      motive (.group item clauses joins))
    (other : ∀ label parts joins, (∀ join ∈ joins, motive (Join.item join)) →
      motive (.other label parts joins)) (item : FromItem) : motive item := by
  cases item with
  | table schema name label extras joins =>
    refine table schema name label extras joins fun join hjoin => ?_
    have := Join.sizeOf_item_lt hjoin
    exact FromItem.induct table derived group other join.item
  | derived body label joins =>
    refine derived body label joins fun join hjoin => ?_
    have := Join.sizeOf_item_lt hjoin
    exact FromItem.induct table derived group other join.item
  | group item clauses joins =>
    refine group item clauses joins ?_ fun join hjoin => ?_
    · exact FromItem.induct table derived group other item
    · have := Join.sizeOf_item_lt hjoin
      exact FromItem.induct table derived group other join.item
  | other label parts joins =>
    refine other label parts joins fun join hjoin => ?_
    have := Join.sizeOf_item_lt hjoin
    exact FromItem.induct table derived group other join.item
termination_by sizeOf item

/-! ## Nothing else, and nothing twice -/

namespace FromItem

/-- What stands before the joins. -/
def inner : FromItem → List (List Nat × Leaf)
  | .table schema name label _ _ => [([0], .table schema name label)]
  | .derived body label _ => [([0], .derived body label)]
  | .group item _ _ => under 0 item.leaves
  | .other label _ _ => [([0], .other label)]

theorem leaves_eq (item : FromItem) :
    item.leaves = item.inner ++ leavesOfItems 1 (item.joins.map Join.item) := by
  cases item <;> exact congrArg _ (leavesOfJoins_eq 1 _)

theorem mem_joined {item : FromItem} {p : List Nat} {l : Leaf} :
    (p, l) ∈ leavesOfItems 1 (item.joins.map Join.item) ↔
      ∃ k join p', p = (k + 1) :: p' ∧ item.joins[k]? = some join ∧
        (p', l) ∈ join.item.leaves := by
  rw [mem_leavesOfItems]
  constructor
  · rintro ⟨k, item', p', rfl, hitem, hmem⟩
    rw [List.getElem?_map] at hitem
    obtain ⟨join, hjoin, rfl⟩ := Option.map_eq_some_iff.mp hitem
    exact ⟨k, join, p', by rw [Nat.add_comm], hjoin, hmem⟩
  · rintro ⟨k, join, p', rfl, hjoin, hmem⟩
    refine ⟨k, join.item, p', by rw [Nat.add_comm], ?_, hmem⟩
    rw [List.getElem?_map, hjoin]
    rfl

theorem mem_leaves_of_leafAt {item : FromItem} {p : List Nat} {l : Leaf} (h : item.LeafAt p l) :
    (p, l) ∈ item.leaves := by
  induction h with
  | table => exact List.mem_cons_self
  | derived => exact List.mem_cons_self
  | other => exact List.mem_cons_self
  | inside clauses joins _ ih =>
    exact List.mem_append_left _ (mem_under.mpr ⟨_, rfl, ih⟩)
  | joined hjoin _ ih =>
    rw [leaves_eq]
    exact List.mem_append_right _ (mem_joined.mpr ⟨_, _, _, rfl, hjoin, ih⟩)

/-- What is joined to an item stands behind what it begins with. -/
theorem leafAt_of_joined {item : FromItem} (hinner : ∀ p l, (p, l) ∈ item.inner → item.LeafAt p l)
    (hjoins : ∀ join ∈ item.joins, ∀ p l, (p, l) ∈ join.item.leaves → join.item.LeafAt p l) :
    ∀ p l, (p, l) ∈ item.leaves → item.LeafAt p l := by
  intro p l h
  rw [leaves_eq] at h
  rcases List.mem_append.mp h with h | h
  · exact hinner p l h
  · obtain ⟨k, join, p', rfl, hjoin, hmem⟩ := mem_joined.mp h
    exact .joined hjoin (hjoins join (List.mem_of_getElem? hjoin) p' l hmem)

theorem leafAt_of_mem_leaves (item : FromItem) :
    ∀ p l, (p, l) ∈ item.leaves → item.LeafAt p l := by
  induction item using FromItem.induct with
  | table schema name label extras joins ih =>
    refine leafAt_of_joined (fun p l h => ?_) ih
    cases List.mem_singleton.mp h
    exact .table schema name label extras joins
  | derived body label joins ih =>
    refine leafAt_of_joined (fun p l h => ?_) ih
    cases List.mem_singleton.mp h
    exact .derived body label joins
  | group item clauses joins ihitem ih =>
    refine leafAt_of_joined (fun p l h => ?_) ih
    obtain ⟨p', rfl, hmem⟩ := mem_under.mp h
    exact .inside clauses joins (ihitem p' l hmem)
  | other label parts joins ih =>
    refine leafAt_of_joined (fun p l h => ?_) ih
    cases List.mem_singleton.mp h
    exact .other label parts joins

theorem mem_leaves_iff {item : FromItem} {p : List Nat} {l : Leaf} :
    (p, l) ∈ item.leaves ↔ item.LeafAt p l :=
  ⟨leafAt_of_mem_leaves item p l, mem_leaves_of_leafAt⟩

end FromItem

/-- From left to right, nothing twice. -/
def Ascending (ls : List (List Nat × Leaf)) : Prop := ls.Pairwise fun a b => a.1 < b.1

theorem Ascending.under {ls : List (List Nat × Leaf)} (h : Ascending ls) (k : Nat) :
    Ascending (under k ls) :=
  List.pairwise_map.mpr (h.imp fun hab => List.cons_lt_cons_iff.mpr (.inr ⟨rfl, hab⟩))

theorem Ascending.append {ls ls' : List (List Nat × Leaf)} {k : Nat} (h : Ascending ls)
    (h' : Ascending ls') (hk : ∀ a ∈ ls, ∃ p, a.1 = k :: p)
    (hk' : ∀ a ∈ ls', ∃ n p, a.1 = (k + 1 + n) :: p) : Ascending (ls ++ ls') := by
  refine List.pairwise_append.mpr ⟨h, h', fun a ha b hb => ?_⟩
  obtain ⟨p, hp⟩ := hk a ha
  obtain ⟨n, p', hp'⟩ := hk' b hb
  rw [hp, hp']
  exact List.cons_lt_cons_iff.mpr (.inl (by omega))

theorem leavesOfItems_ascending {is : List FromItem} (h : ∀ i ∈ is, Ascending i.leaves) (k : Nat) :
    Ascending (leavesOfItems k is) := by
  induction is generalizing k with
  | nil => exact List.Pairwise.nil
  | cons i is ih =>
    refine Ascending.append (k := k) ((h i List.mem_cons_self).under k)
      (ih (fun i' hi' => h i' (List.mem_cons_of_mem i hi')) (k + 1)) ?_ ?_
    · rintro ⟨p, l⟩ ha
      obtain ⟨p', rfl, -⟩ := mem_under.mp ha
      exact ⟨p', rfl⟩
    · rintro ⟨p, l⟩ ha
      obtain ⟨n, item, p', rfl, -, -⟩ := mem_leavesOfItems.mp ha
      exact ⟨n, p', rfl⟩

namespace FromItem

theorem ascending_of_joined {item : FromItem} (hinner : Ascending item.inner)
    (hzero : ∀ a ∈ item.inner, ∃ p, a.1 = 0 :: p)
    (hjoins : ∀ join ∈ item.joins, Ascending join.item.leaves) : Ascending item.leaves := by
  rw [leaves_eq]
  refine Ascending.append hinner (leavesOfItems_ascending (fun i hi => ?_) 1) hzero ?_
  · obtain ⟨join, hjoin, rfl⟩ := List.mem_map.mp hi
    exact hjoins join hjoin
  · rintro ⟨p, l⟩ ha
    obtain ⟨n, item, p', rfl, -, -⟩ := mem_leavesOfItems.mp ha
    exact ⟨n, p', rfl⟩

theorem ascending_single (l : Leaf) : Ascending [([0], l)] := List.pairwise_singleton _ _

theorem zero_of_mem_single {l : Leaf} : ∀ a ∈ [([0], l)], ∃ p, a.1 = 0 :: p := by
  intro a ha
  rw [List.mem_singleton.mp ha]
  exact ⟨[], rfl⟩

theorem leaves_ascending (item : FromItem) : Ascending item.leaves := by
  induction item using FromItem.induct with
  | table _ _ _ _ _ ih => exact ascending_of_joined (ascending_single _) zero_of_mem_single ih
  | derived _ _ _ ih => exact ascending_of_joined (ascending_single _) zero_of_mem_single ih
  | group item _ _ ihitem ih =>
    refine ascending_of_joined (ihitem.under 0) ?_ ih
    rintro ⟨p, l⟩ ha
    obtain ⟨p', rfl, -⟩ := mem_under.mp ha
    exact ⟨p', rfl⟩
  | other _ _ _ ih => exact ascending_of_joined (ascending_single _) zero_of_mem_single ih

end FromItem

/-! ## Sources -/

/-- What leaves bring into scope. -/
def sourcesOfLeaves (s : Scope) (ls : List (List Nat × Leaf)) : List Source :=
  ls.map fun a => a.2.source s

@[simp] theorem sourcesOfLeaves_under (s : Scope) (k : Nat) (ls : List (List Nat × Leaf)) :
    sourcesOfLeaves s (under k ls) = sourcesOfLeaves s ls := by
  simp only [sourcesOfLeaves, under, List.map_map, Function.comp_def]

@[simp] theorem sourcesOfLeaves_append (s : Scope) (ls ls' : List (List Nat × Leaf)) :
    sourcesOfLeaves s (ls ++ ls') = sourcesOfLeaves s ls ++ sourcesOfLeaves s ls' :=
  List.map_append

theorem sourcesOfLeaves_items {s : Scope} {is : List FromItem}
    (h : ∀ i ∈ is, i.sources s = sourcesOfLeaves s i.leaves) (k : Nat) :
    sourcesOfLeaves s (leavesOfItems k is) = is.flatMap (FromItem.sources s) := by
  induction is generalizing k with
  | nil => rfl
  | cons i is ih =>
    simp only [leavesOfItems, sourcesOfLeaves_append, sourcesOfLeaves_under, List.flatMap_cons,
      h i List.mem_cons_self, ih (fun i' hi' => h i' (List.mem_cons_of_mem i hi'))]

theorem sourcesOfJoins_eq (s : Scope) (joins : List Join) :
    sourcesOfJoins s joins = (joins.map Join.item).flatMap (FromItem.sources s) := by
  induction joins with
  | nil => rfl
  | cons join joins ih =>
    obtain ⟨item, condition⟩ := join
    simp only [sourcesOfJoins, List.map_cons, List.flatMap_cons, ih]
    rfl

theorem FromItem.sources_eq (s : Scope) (item : FromItem) :
    item.sources s = sourcesOfLeaves s item.leaves := by
  have hjoined : ∀ joins : List Join,
      (∀ join ∈ joins, join.item.sources s = sourcesOfLeaves s join.item.leaves) →
      sourcesOfJoins s joins = sourcesOfLeaves s (leavesOfJoins 1 joins) := by
    intro joins hjoins
    rw [sourcesOfJoins_eq, leavesOfJoins_eq, sourcesOfLeaves_items]
    intro i hi
    obtain ⟨join, hjoin, rfl⟩ := List.mem_map.mp hi
    exact hjoins join hjoin
  induction item using FromItem.induct with
  | table schema name label extras joins ih => exact congrArg _ (hjoined joins ih)
  | derived body label joins ih => exact congrArg _ (hjoined joins ih)
  | group item clauses joins ihitem ih =>
    simp only [FromItem.sources, FromItem.leaves, sourcesOfLeaves_append, sourcesOfLeaves_under,
      ihitem, hjoined joins ih]
  | other label parts joins ih => exact congrArg _ (hjoined joins ih)

namespace Select

theorem mem_leaves_iff {q : Select} {p : List Nat} {l : Leaf} :
    (p, l) ∈ q.leaves ↔ q.LeafAt p l := by
  unfold leaves LeafAt
  rw [mem_leavesOfItems]
  simp only [Nat.zero_add, FromItem.mem_leaves_iff]

theorem leaves_ascending (q : Select) : Ascending q.leaves :=
  leavesOfItems_ascending (fun i _ => i.leaves_ascending) 0

theorem sources_eq_fromItems (q : Select) (s : Scope) :
    q.sources s = q.fromItems.flatMap (FromItem.sources s) := by
  rw [sources, fromItems, List.flatMap_append, sourcesOfJoins_eq]

theorem sources_eq (q : Select) (s : Scope) : q.sources s = sourcesOfLeaves s q.leaves := by
  rw [sources_eq_fromItems, leaves, sourcesOfLeaves_items fun i _ => i.sources_eq s]

/-- The leaves of the clause are listed from left to right, each once and nothing else, and the
sources are read off them.  An item that is no star has one projection, under its own name.  A star
with a qualifier stands for one leaf of that label at most, and a star for every leaf in turn. -/
theorem analysis_of_leaves (q : Select) (known : KnownRelations) (home : String) :
    (∀ p l, (p, l) ∈ q.leaves ↔ q.LeafAt p l) ∧
    (q.leaves.Pairwise fun a b => a.1 < b.1) ∧
    (q.sources ⟨known, home, q.cteNames⟩ =
      q.leaves.map fun a => a.2.source ⟨known, home, q.cteNames⟩) ∧
    (q.analysis known home).projections = q.items.flatMap (q.part known home) ∧
    (∀ item, item.isStar = false →
      ∃ p, q.part known home item = [p] ∧ p.outputName = some item.itemName) ∧
    (∀ label, ∃ relation, q.part known home (.starOf label) = [.wildcard relation] ∧
      ∀ ref, relation = some ref → ∃ p l, q.LeafAt p l ∧ l.label = label ∧
        l.relation ⟨known, home, q.cteNames⟩ = some ref) ∧
    q.part known home .star =
      q.leaves.map fun a => .wildcard (a.2.relation ⟨known, home, q.cteNames⟩) := by
  let scope : Scope := ⟨known, home, q.cteNames⟩
  have hsources : q.sources scope = q.leaves.map fun a => a.2.source scope := q.sources_eq scope
  refine ⟨fun p l => q.mem_leaves_iff, q.leaves_ascending, hsources, q.projections_eq known home,
    fun item hitem => ⟨_, q.part_of_isStar known home hitem, item.origin_outputName _ _⟩,
    fun label => ⟨_, rfl, fun ref href => ?_⟩, ?_⟩
  · obtain ⟨s, hs, hrelation⟩ := Option.bind_eq_some_iff.mp href
    have hmem : s ∈ q.leaves.map fun a => a.2.source scope := hsources ▸ List.mem_of_find?_eq_some hs
    have hlabel := List.find?_some hs
    obtain ⟨⟨p, l⟩, hl, rfl⟩ := List.mem_map.mp hmem
    exact ⟨p, l, q.mem_leaves_iff.mp hl, of_decide_eq_true hlabel, hrelation⟩
  · show (q.sources scope).map (fun s => Projection.wildcard s.relation) = _
    rw [hsources, List.map_map]
    rfl

end Select

/-- `SELECT 1 AS n` -/
def oneRow : Query := .select (.mk [.named (.literal "1") "n"] [] [] [] [])

/-- `SELECT * FROM (orders AS o, (SELECT 1 AS n) AS d), numbers() AS g, public."Customers" AS c` -/
def nestedClause : Select :=
  .mk [.star]
    [.group (.table none "orders" (some "o") [] [.mk (.derived oneRow "d" []) []]) [] []]
    [.mk (.other "g" [] []) [], .mk customersItem []] [] []

theorem nestedClause_leaves :
    nestedClause.leaves =
      [([0, 0, 0], .table none "orders" (some "o")), ([0, 0, 1, 0], .derived oneRow "d"),
        ([1, 0], .other "g"), ([2, 0], .table (some "public") "Customers" (some "c"))] ∧
    nestedClause.LeafAt [0, 0, 1, 0] (.derived oneRow "d") ∧
    nestedClause.part ordersAndCustomers "public" .star =
      [.wildcard (some ordersRef), .wildcard none, .wildcard none, .wildcard (some customersRef)] ∧
    ∃ p, nestedClause.part ordersAndCustomers "public" (.column (some "d") "n") = [p] ∧
      p.outputName = some "n" := by
  have hlisted : nestedClause.leaves =
      [([0, 0, 0], .table none "orders" (some "o")), ([0, 0, 1, 0], .derived oneRow "d"),
        ([1, 0], .other "g"), ([2, 0], .table (some "public") "Customers" (some "c"))] := rfl
  have hname : (Expr.column (some "d") "n").itemName = "n" := by decide +kernel
  obtain ⟨hleaves, -, -, -, hitem, -, hstar⟩ :=
    Select.analysis_of_leaves nestedClause ordersAndCustomers "public"
  refine ⟨hlisted, (hleaves _ _).mp ?_, ?_, hname ▸ hitem _ rfl⟩
  · rw [hlisted]
    exact List.mem_cons_of_mem _ List.mem_cons_self
  · rw [hstar, hlisted]
    decide +kernel

end Sql
end SchemaLineage
