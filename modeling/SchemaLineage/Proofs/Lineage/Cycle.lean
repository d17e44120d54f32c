import Mathlib.Data.List.Chain
import Mathlib.Data.List.Nodup
import Mathlib.Data.List.Perm.Subperm
import Mathlib.Data.List.TakeWhile
import SchemaLineage.Lineage.Graph
/-
The search for a cycle finds one exactly when there is one.

`Graph.search` follows the arrows from a node to those that need it.  When it gives up, the path and
the node that is met again make a closed walk (`search_error`).  When it does not, no walk leads
forever onwards from any node that was seen and is no longer on the path: a node is only left when
all that hangs on it has been seen, and none of that was on the path (`search_ok`).  The depth that
the search is given never runs out, as the nodes of a path are different nodes of the graph.
-/

namespace SchemaLineage

section

variable {α : Type} {r : α → α → Prop}

/-- A walk of at least one step that ends where it began. -/
structure ClosedWalk (r : α → α → Prop) (walk : List α) : Prop where
  two_le : 2 ≤ walk.length
  closed : walk.head? = walk.getLast?
  steps : walk.IsChain r

theorem ClosedWalk.imp {r' : α → α → Prop} {walk : List α} (h : ClosedWalk r walk)
    (hr : ∀ a b, r a b → r' a b) : ClosedWalk r' walk :=
  ⟨h.two_le, h.closed, h.steps.imp fun a b => hr a b⟩

theorem transGen_of_isChain {a b : α} {rest : List α} (h : (a :: rest).IsChain r)
    (hlast : rest.getLast? = some b) : Relation.TransGen r a b := by
  induction rest generalizing a with
  | nil => cases hlast
  | cons c rest ih =>
    obtain ⟨hac, hrest⟩ := List.isChain_cons_cons.mp h
    cases rest with
    | nil =>
      cases hlast
      exact .single hac
    | cons d rest => exact .head hac (ih hrest (by rwa [List.getLast?_cons_cons] at hlast))

theorem ClosedWalk.transGen {walk : List α} (h : ClosedWalk r walk) :
    ∃ a, Relation.TransGen r a a := by
  obtain ⟨htwo, hclosed, hsteps⟩ := h
  match walk, htwo with
  | a :: b :: rest, _ =>
    rw [List.head?_cons, List.getLast?_cons_cons] at hclosed
    exact ⟨a, transGen_of_isChain hsteps hclosed.symm⟩

/-- From an element on a closed walk one can go onwards forever. -/
theorem not_acc_of_transGen {a : α} (h : Relation.TransGen r a a) : ¬ Acc (fun b a => r a b) a := by
  intro hacc
  have hacc' : Acc (Relation.TransGen fun b a => r a b) a := hacc.transGen
  have hback : Relation.TransGen (fun b a => r a b) a a := Relation.transGen_swap.mpr h
  induction hacc' with
  | intro a _ ih => exact ih a hback h hacc hback

variable [DecidableEq α]

theorem exists_dropWhile_eq_cons {path : List α} {n : α} (hn : n ∈ path) :
    ∃ rest, path.dropWhile (· ≠ n) = n :: rest := by
  induction path with
  | nil => cases hn
  | cons m path ih =>
    by_cases hm : m = n
    · subst hm
      exact ⟨path, List.dropWhile_cons_of_neg (by simp)⟩
    · rw [List.dropWhile_cons_of_pos (by simpa using hm)]
      exact ih ((List.mem_cons.mp hn).resolve_left (Ne.symm hm))

/-- The part of a path that begins with an element, closed by that element. -/
theorem closedWalk_dropWhile {path : List α} {n : α} (hn : n ∈ path)
    (hsteps : (path ++ [n]).IsChain r) : ClosedWalk r (path.dropWhile (· ≠ n) ++ [n]) := by
  obtain ⟨rest, hrest⟩ := exists_dropWhile_eq_cons hn
  refine ⟨?_, ?_, ?_⟩
  · rw [hrest, List.length_append, List.length_cons, List.length_singleton]
    omega
  · rw [List.getLast?_concat, hrest]
    rfl
  · refine hsteps.suffix ?_
    obtain ⟨before, hbefore⟩ := List.dropWhile_suffix (l := path) (· ≠ n)
    exact ⟨before, by rw [← List.append_assoc, hbefore]⟩

end

namespace Graph

variable {α : Type} [DecidableEq α] {g : Graph α}

/-- What `Graph` says of its nodes and of what they need. -/
structure WellFormed (g : Graph α) : Prop where
  nodup : g.nodes.Nodup
  closed : ∀ n ∈ g.nodes, g.needs n ⊆ g.nodes

theorem mem_dependents {n m : α} : m ∈ g.dependents n ↔ m ∈ g.nodes ∧ n ∈ g.needs m := by
  simp [dependents]

theorem mem_mentioned {n : α} (hn : n ∈ g.nodes) : n ∈ g.mentioned :=
  List.mem_eraseDups.mpr (List.mem_flatMap.mpr ⟨n, hn, List.mem_cons_self⟩)

theorem mem_nodes_of_mentioned (hg : g.WellFormed) {n : α} (hn : n ∈ g.mentioned) :
    n ∈ g.nodes := by
  obtain ⟨m, hm, hn⟩ := List.mem_flatMap.mp (List.mem_eraseDups.mp hn)
  rcases List.mem_cons.mp hn with rfl | hn
  · exact hm
  · exact hg.closed m hm hn

def Leads (g : Graph α) (n m : α) : Prop := m ∈ g.dependents n

theorem foldlM_error {ε β γ : Type} {f : β → γ → Except ε β} {ms : List γ} {b : β} {e : ε}
    (h : ms.foldlM f b = .error e) : ∃ m ∈ ms, ∃ b', f b' m = .error e := by
  induction ms generalizing b with
  | nil => cases h
  | cons m ms ih =>
    rw [List.foldlM_cons] at h
    cases hm : f b m with
    | error e' =>
      rw [hm] at h
      cases h
      exact ⟨m, List.mem_cons_self, b, hm⟩
    | ok b' =>
      rw [hm] at h
      obtain ⟨m', hm', hrest⟩ := ih h
      exact ⟨m', List.mem_cons_of_mem m hm', hrest⟩

/-- What the search reports is a closed walk along the arrows. -/
theorem search_error {depth : Nat} {path seen walk : List α} {n : α}
    (h : g.search depth path seen n = .error walk) (hsteps : (path ++ [n]).IsChain g.Leads) :
    ClosedWalk g.Leads walk := by
  induction depth generalizing path seen n with
  | zero => cases h
  | succ depth ih =>
    rw [search] at h
    by_cases hp : n ∈ path
    · rw [if_pos hp] at h
      cases h
      exact closedWalk_dropWhile hp hsteps
    · rw [if_neg hp] at h
      by_cases hs : n ∈ seen
      · rw [if_pos hs] at h
        cases h
      · rw [if_neg hs] at h
        obtain ⟨m, hm, seen', hsearch⟩ := foldlM_error h
        refine ih hsearch ?_
        refine List.isChain_append.mpr ⟨hsteps, List.isChain_singleton m, ?_⟩
        simpa [Leads] using hm

/-- No walk leads forever onwards. -/
def Safe (g : Graph α) (n : α) : Prop := Acc (fun m n => g.Leads n m) n

/-- What the search has seen is on the path or safe. -/
def SeenSafe (g : Graph α) (path seen : List α) : Prop := ∀ m ∈ seen, m ∈ path ∨ g.Safe m

/-- A fold of the search over nodes, each of which keeps what was seen and adds itself. -/
theorem foldlM_search_ok {f : List α → α → Except (List α) (List α)} {path ms seen seen' : List α}
    (h : ms.foldlM f seen = .ok seen') (hseen : g.SeenSafe path seen)
    (hf : ∀ m ∈ ms, ∀ before after, f before m = .ok after → g.SeenSafe path before →
      before ⊆ after ∧ m ∈ after ∧ m ∉ path ∧ g.SeenSafe path after) :
    seen ⊆ seen' ∧ (∀ m ∈ ms, m ∈ seen' ∧ m ∉ path) ∧ g.SeenSafe path seen' := by
  induction ms generalizing seen with
  | nil =>
    cases h
    exact ⟨List.Subset.refl _, fun m hm => absurd hm List.not_mem_nil, hseen⟩
  | cons m ms ih =>
    rw [List.foldlM_cons] at h
    cases hm : f seen m with
    | error e => rw [hm] at h; cases h
    | ok after =>
      rw [hm] at h
      obtain ⟨hsub, hmem, hpath, hafter⟩ := hf m List.mem_cons_self seen after hm hseen
      obtain ⟨hsub', hall, hseen'⟩ := ih h hafter fun m' hm' => hf m' (List.mem_cons_of_mem m hm')
      refine ⟨List.Subset.trans hsub hsub', fun m' hm' => ?_, hseen'⟩
      rcases List.mem_cons.mp hm' with rfl | hm'
      · exact ⟨hsub' hmem, hpath⟩
      · exact hall m' hm'

/-- When the search reports nothing, what it has seen and left is safe. -/
theorem search_ok {depth : Nat} {path seen seen' : List α} {n : α}
    (h : g.search depth path seen n = .ok seen') (hdepth : g.nodes.length < depth + path.length)
    (hnodup : path.Nodup) (hsub : path ++ [n] ⊆ g.nodes) (hseen : g.SeenSafe path seen) :
    seen ⊆ seen' ∧ n ∈ seen' ∧ n ∉ path ∧ g.SeenSafe path seen' := by
  induction depth generalizing path seen seen' n with
  | zero =>
    have hlen := (List.subperm_of_subset hnodup
      (List.Subset.trans (List.subset_append_left path [n]) hsub)).length_le
    omega
  | succ depth ih =>
    rw [search] at h
    by_cases hp : n ∈ path
    · rw [if_pos hp] at h
      cases h
    · rw [if_neg hp] at h
      by_cases hs : n ∈ seen
      · rw [if_pos hs] at h
        cases h
        exact ⟨List.Subset.refl _, hs, hp, hseen⟩
      · rw [if_neg hs] at h
        have hstart : g.SeenSafe (path ++ [n]) (n :: seen) := by
          intro m hm
          rcases List.mem_cons.mp hm with rfl | hm
          · exact .inl (List.mem_append_right path List.mem_cons_self)
          · exact (hseen m hm).imp_left (List.mem_append_left [n])
        have hdepth' : g.nodes.length < depth + (path ++ [n]).length := by
          rw [List.length_append, List.length_singleton]
          omega
        have hnodup' : (path ++ [n]).Nodup := by
          refine List.nodup_append.mpr ⟨hnodup, List.nodup_singleton n, ?_⟩
          intro a ha b hb hab
          rw [hab, List.mem_singleton.mp hb] at ha
          exact hp ha
        have hbelow : ∀ m ∈ g.dependents n, path ++ [n] ++ [m] ⊆ g.nodes := by
          intro m hm
          refine List.append_subset.mpr ⟨hsub, ?_⟩
          simpa using (mem_dependents.mp hm).1
        obtain ⟨hsub', hall, hseen'⟩ := foldlM_search_ok h hstart
          fun m hm before after hstep hbefore => ih hstep hdepth' hnodup' (hbelow m hm) hbefore
        -- Nothing that hangs on the node is on the path, so all of it is safe, and so is the node.
        have hsafe : g.Safe n := Acc.intro n fun m hm =>
          (hseen' m (hall m hm).1).resolve_left (hall m hm).2
        refine ⟨fun m hm => hsub' (List.mem_cons_of_mem n hm), hsub' List.mem_cons_self, hp, ?_⟩
        intro m hm
        rcases hseen' m hm with hm | hm
        · rcases List.mem_append.mp hm with hm | hm
          · exact .inl hm
          · rw [List.mem_singleton.mp hm]
            exact .inr hsafe
        · exact .inr hm

theorem closedWalk_of_cycle? {walk : List α} (h : g.cycle? = some walk) :
    ClosedWalk g.Leads walk := by
  unfold cycle? at h
  split at h
  · rename_i walk' hfold
    cases h
    obtain ⟨n, -, seen, hsearch⟩ := foldlM_error hfold
    exact search_error hsearch (List.isChain_singleton n)
  · cases h

theorem safe_of_cycle?_eq_none (hg : g.WellFormed) (h : g.cycle? = none) {n : α}
    (hn : n ∈ g.nodes) : g.Safe n := by
  unfold cycle? at h
  split at h
  · cases h
  · rename_i seen hfold
    have hnil : g.SeenSafe [] [] := fun m hm => absurd hm List.not_mem_nil
    have hdepth : g.nodes.length < g.nodes.length + 1 + ([] : List α).length := by
      rw [List.length_nil]
      omega
    have hmentioned : ∀ m ∈ g.mentioned, [] ++ [m] ⊆ g.nodes := by
      intro m hm
      simpa using mem_nodes_of_mentioned hg hm
    obtain ⟨-, hall, hseen⟩ := foldlM_search_ok hfold hnil fun m hm before after hstep hbefore =>
      search_ok hstep hdepth List.nodup_nil (hmentioned m hm) hbefore
    exact (hseen n (hall n (mem_mentioned hn)).1).resolve_left List.not_mem_nil

/-- There is a walk to report exactly when some node leads back to itself. -/
theorem cycle?_eq_none_iff (hg : g.WellFormed) :
    g.cycle? = none ↔ ¬ ∃ n, Relation.TransGen g.Leads n n := by
  constructor
  · rintro h ⟨n, hn⟩
    obtain ⟨m, hm, -⟩ := Relation.TransGen.head'_iff.mp hn
    obtain ⟨hmem, hneeds⟩ := mem_dependents.mp hm
    exact not_acc_of_transGen hn (safe_of_cycle?_eq_none hg h (hg.closed m hmem hneeds))
  · intro h
    cases hc : g.cycle? with
    | none => rfl
    | some walk => exact absurd (closedWalk_of_cycle? hc).transGen h

end Graph
end SchemaLineage
