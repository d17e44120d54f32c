import SchemaLineage.Proofs.Text.Lowercase
import SchemaLineage.TypeName
/-
What is taken out of a type's name with its modifiers.

A modifier goes from a parenthesis to the first one that closes it, whatever stands between them.
What the scan leaves is just what no such part encloses (`mem_dropModifiers_iff`), and nothing in it
opens a modifier again (`not_sublist_dropModifiers`).  As lowercase and trimming touch no
parentheses, it does not matter whether they come before or after (`Text.Respelled.dropModifiers`).
-/

namespace SchemaLineage
namespace TypeName

open Text

/-- The place lies in a part that a parenthesis opens and the next closing one ends, or is one of
the two. -/
def Enclosed (cs : List Char) (i : Nat) : Prop :=
  ∃ first last, first ≤ i ∧ i ≤ last ∧ cs[first]? = some '(' ∧ cs[last]? = some ')' ∧
    ∀ j, first < j → j < last → cs[j]? ≠ some ')'

variable {c : Char} {cs ds r : List Char}

/-- What stands behind the first closing parenthesis. -/
def behind (cs : List Char) : List Char := (cs.dropWhile (· != ')')).drop 1

theorem dropModifiers_cons (c : Char) (r : List Char) :
    dropModifiers (c :: r) =
      if c = '(' ∧ ')' ∈ r then dropModifiers (behind r) else c :: dropModifiers r := by
  rw [dropModifiers]
  rfl

theorem behind_cons (c : Char) (cs : List Char) :
    behind (c :: cs) = if c = ')' then cs else behind cs := by
  unfold behind
  by_cases hc : c = ')'
  · rw [if_pos hc, hc]
    rfl
  · rw [if_neg hc, List.dropWhile_cons_of_pos (by simpa using hc)]

theorem behind_append (hr : ')' ∉ r) (cs : List Char) : behind (r ++ cs) = behind cs := by
  induction r with
  | nil => rfl
  | cons c r ih =>
    rw [List.mem_cons, not_or] at hr
    rw [List.cons_append, behind_cons, if_neg (Ne.symm hr.1), ih hr.2]

theorem behind_sublist (cs : List Char) : (behind cs).Sublist cs :=
  (List.drop_sublist _ _).trans (List.dropWhile_sublist _)

theorem dropModifiers_sublist (cs : List Char) : (dropModifiers cs).Sublist cs := by
  induction cs using dropModifiers.induct with
  | case1 => simp [dropModifiers]
  | case2 c r h ih =>
    rw [dropModifiers_cons, if_pos h]
    exact (ih.trans (behind_sublist r)).cons c
  | case3 c r h ih =>
    rw [dropModifiers_cons, if_neg h]
    exact ih.cons_cons c

/-- A parenthesis that is left open has nothing behind it that would close it. -/
theorem not_sublist_dropModifiers (cs : List Char) : ¬ ['(', ')'].Sublist (dropModifiers cs) := by
  induction cs using dropModifiers.induct with
  | case1 =>
    rw [dropModifiers]
    exact nofun
  | case2 c r h ih => rwa [dropModifiers_cons, if_pos h]
  | case3 c r h ih =>
    rw [dropModifiers_cons, if_neg h, List.sublist_cons_iff]
    rintro (hsub | ⟨l, hl, hsub⟩)
    · exact ih hsub
    · obtain ⟨rfl, rfl⟩ := List.cons.inj hl
      exact h ⟨rfl, (dropModifiers_sublist r).subset (List.singleton_sublist.mp hsub)⟩

theorem dropModifiers_of_not_sublist (h : ¬ ['(', ')'].Sublist cs) : dropModifiers cs = cs := by
  induction cs with
  | nil => rw [dropModifiers]
  | cons c cs ih =>
    rw [dropModifiers_cons, if_neg, ih fun hsub => h (hsub.cons c)]
    rintro ⟨rfl, hclosed⟩
    exact h ((List.singleton_sublist.mpr hclosed).cons_cons '(')

theorem dropModifiers_append (hw : '(' ∉ r) (cs : List Char) :
    dropModifiers (r ++ cs) = r ++ dropModifiers cs := by
  induction r with
  | nil => rfl
  | cons c r ih =>
    have hc : c ≠ '(' := fun hc => hw (hc ▸ List.mem_cons_self)
    rw [List.cons_append, dropModifiers_cons, if_neg fun hboth => hc hboth.1,
      ih fun hr => hw (List.mem_cons_of_mem c hr)]
    rfl

/-- Behind a text that leaves no parenthesis open, the same parts are enclosed as without it. -/
theorem enclosed_append_iff {a b : List Char} {i : Nat}
    (ha : ∀ j, a[j]? = some '(' → ∃ k, j < k ∧ k < a.length ∧ a[k]? = some ')') :
    Enclosed (a ++ b) (a.length + i) ↔ Enclosed b i := by
  constructor
  · rintro ⟨first, last, hfirst, hlast, hopen, hclose, hbetween⟩
    have hbehind : a.length ≤ first := by
      refine Nat.le_of_not_lt fun hlt => ?_
      rw [List.getElem?_append_left (by omega)] at hopen
      obtain ⟨k, hk, hk', hclosed⟩ := ha first hopen
      refine hbetween k hk (by omega) ?_
      rwa [List.getElem?_append_left hk']
    rw [List.getElem?_append_right hbehind] at hopen
    rw [List.getElem?_append_right (by omega)] at hclose
    refine ⟨first - a.length, last - a.length, by omega, by omega, hopen, hclose, ?_⟩
    intro j hj hj'
    have hnone := hbetween (a.length + j) (by omega) (by omega)
    rwa [List.getElem?_append_right (by omega), Nat.add_sub_cancel_left] at hnone
  · rintro ⟨first, last, hfirst, hlast, hopen, hclose, hbetween⟩
    refine ⟨a.length + first, a.length + last, by omega, by omega, ?_, ?_, fun j hj hj' => ?_⟩
    · rwa [List.getElem?_append_right (by omega), Nat.add_sub_cancel_left]
    · rwa [List.getElem?_append_right (by omega), Nat.add_sub_cancel_left]
    · rw [List.getElem?_append_right (by omega)]
      exact hbetween (j - a.length) (by omega) (by omega)

theorem Enclosed.mem {i : Nat} (h : Enclosed cs i) : ')' ∈ cs := by
  obtain ⟨first, last, -, -, -, hclose, -⟩ := h
  exact List.mem_of_getElem? hclose

theorem exists_behind (h : ')' ∈ cs) : ∃ m, cs = m ++ ')' :: behind cs ∧ ')' ∉ m := by
  induction cs with
  | nil => cases h
  | cons c cs ih =>
    rw [behind_cons]
    by_cases hc : c = ')'
    · exact ⟨[], by simp [hc], List.not_mem_nil⟩
    · obtain ⟨m, hm, hnot⟩ := ih ((List.mem_cons.mp h).resolve_left (Ne.symm hc))
      refine ⟨c :: m, ?_, by simp [hnot, Ne.symm hc]⟩
      rw [if_neg hc, List.cons_append, ← hm]

/-- A part in parentheses at the front of a text is enclosed, and nothing else because of it. -/
theorem enclosed_front {m b : List Char} (hm : ')' ∉ m) :
    (∀ i < m.length + 2, Enclosed ('(' :: m ++ [')'] ++ b) i) ∧
      ∀ i, Enclosed ('(' :: m ++ [')'] ++ b) (m.length + 2 + i) ↔ Enclosed b i := by
  have hlength : ('(' :: m ++ [')']).length = m.length + 2 := by simp
  have hclose : ('(' :: m ++ [')'])[m.length + 1]? = some ')' := by simp
  constructor
  · intro i hi
    refine ⟨0, m.length + 1, by omega, by omega, rfl, ?_, fun j hj hj' => ?_⟩
    · rwa [List.getElem?_append_left (by omega)]
    · obtain ⟨j, rfl⟩ : ∃ k, j = k + 1 := ⟨j - 1, by omega⟩
      rw [List.getElem?_append_left (by omega), List.cons_append, List.getElem?_cons_succ,
        List.getElem?_append_left (by omega)]
      exact fun hmem => hm (List.mem_of_getElem? hmem)
  · intro i
    rw [← hlength]
    refine enclosed_append_iff fun j hj => ⟨m.length + 1, ?_, by omega, hclose⟩
    have hj' : j < ('(' :: m ++ [')']).length := (List.getElem?_eq_some_iff.mp hj).1
    have hne : j ≠ m.length + 1 := by
      rintro rfl
      rw [hclose] at hj
      cases hj
    omega

/-- Just what is not enclosed in parentheses is left. -/
theorem mem_dropModifiers_iff : c ∈ dropModifiers cs ↔ ∃ i, cs[i]? = some c ∧ ¬ Enclosed cs i := by
  induction cs using dropModifiers.induct with
  | case1 =>
    rw [dropModifiers]
    simp
  | case2 d r h ih =>
    obtain ⟨rfl, hclosed⟩ := h
    obtain ⟨m, hm, hnot⟩ := exists_behind hclosed
    have ih : c ∈ dropModifiers (behind r) ↔
      ∃ i, (behind r)[i]? = some c ∧ ¬ Enclosed (behind r) i := ih
    have hcut : '(' :: r = '(' :: m ++ [')'] ++ behind r := by
      rw [List.cons_append, List.cons_append, List.append_assoc, List.singleton_append, ← hm]
    obtain ⟨hfront, hbehind⟩ := enclosed_front (b := behind r) hnot
    have hindex : ∀ i, ('(' :: m ++ [')'] ++ behind r)[m.length + 2 + i]? = (behind r)[i]? := by
      intro i
      rw [List.getElem?_append_right (by simp)]
      simp
    rw [dropModifiers_cons, if_pos ⟨rfl, hclosed⟩, ih, hcut]
    constructor
    · rintro ⟨i, hi, hout⟩
      exact ⟨m.length + 2 + i, (hindex i).trans hi, fun hin => hout ((hbehind i).mp hin)⟩
    · rintro ⟨i, hi, hout⟩
      obtain ⟨j, rfl⟩ : ∃ j, i = m.length + 2 + j := by
        refine ⟨i - (m.length + 2), ?_⟩
        have := mt (hfront i) hout
        omega
      exact ⟨j, (hindex j).symm.trans hi, fun hin => hout ((hbehind j).mpr hin)⟩
  | case3 d r h ih =>
    have hfront : ¬ Enclosed (d :: r) 0 := by
      rintro ⟨first, last, hfirst, hlast, hopen, hclose, -⟩
      obtain rfl : first = 0 := by omega
      obtain rfl : d = '(' := Option.some.inj hopen
      exact h ⟨rfl, (List.mem_cons.mp (List.mem_of_getElem? hclose)).resolve_left (by decide)⟩
    have hbehind : ∀ i, Enclosed (d :: r) (i + 1) ↔ Enclosed r i := by
      intro i
      by_cases hd : d = '('
      · have hopen : ')' ∉ r := fun hclosed => h ⟨hd, hclosed⟩
        refine iff_of_false (fun henclosed => ?_) fun henclosed => hopen henclosed.mem
        rcases List.mem_cons.mp henclosed.mem with hclose | hclosed
        · rw [hd] at hclose
          cases hclose
        · exact hopen hclosed
      · rw [Nat.add_comm]
        refine enclosed_append_iff (a := [d]) fun j hj => ?_
        cases j with
        | zero => exact absurd (Option.some.inj hj) hd
        | succ j => cases hj
    rw [dropModifiers_cons, if_neg h, List.mem_cons, ih]
    constructor
    · rintro (rfl | ⟨i, hi, hout⟩)
      · exact ⟨0, rfl, hfront⟩
      · exact ⟨i + 1, hi, fun henclosed => hout ((hbehind i).mp henclosed)⟩
    · rintro ⟨i, hi, hout⟩
      cases i with
      | zero => exact .inl (Option.some.inj hi).symm
      | succ i => exact .inr ⟨i, hi, fun henclosed => hout ((hbehind i).mpr henclosed)⟩

end TypeName

namespace Text.Respelled

variable {c : Char} {w cs ds : List Char}

theorem not_mem_of_inert (hc : isInert c = true) (hw : ∀ d ∈ w, isInert d = false) : c ∉ w := by
  intro hmem
  rw [hw c hmem] at hc
  cases hc

/-- Inert characters other than blanks stay. -/
theorem mem_iff (hc : isInert c = true) (hblank : isBlank c = false) (h : Respelled cs ds) :
    c ∈ cs ↔ c ∈ ds := by
  induction h with
  | nil => exact Iff.rfl
  | kept d _ ih => rw [List.mem_cons, List.mem_cons, ih]
  | @dropped d _ _ hd _ ih =>
    rw [List.mem_cons, ih, or_iff_right]
    rintro rfl
    rw [hblank] at hd
    cases hd
  | @replaced d w _ _ hd _ hw _ ih =>
    rw [List.mem_cons, List.mem_append, ih, or_iff_right (not_mem_of_inert hc hw), or_iff_right]
    rintro rfl
    rw [hc] at hd
    cases hd

theorem behind (h : Respelled cs ds) : Respelled (TypeName.behind cs) (TypeName.behind ds) := by
  induction h with
  | nil => exact .nil
  | @kept c cs ds h ih =>
    rw [TypeName.behind_cons, TypeName.behind_cons]
    by_cases hc : c = ')'
    · rwa [if_pos hc, if_pos hc]
    · rwa [if_neg hc, if_neg hc]
  | @dropped c _ _ hc _ ih =>
    rwa [TypeName.behind_cons, if_neg]
    rintro rfl
    exact absurd hc (by decide)
  | @replaced c w _ _ hc _ hw _ ih =>
    rwa [TypeName.behind_cons, if_neg, TypeName.behind_append (not_mem_of_inert (by decide) hw)]
    rintro rfl
    exact absurd hc (by decide)

/-- What stands outside of modifiers is respelled with the text. -/
theorem dropModifiers (h : Respelled cs ds) :
    Respelled (TypeName.dropModifiers cs) (TypeName.dropModifiers ds) := by
  induction cs using TypeName.dropModifiers.induct generalizing ds with
  | case1 =>
    cases h
    exact .refl _
  | case2 c r hopen ih =>
    obtain ⟨rfl, hclosed⟩ := hopen
    cases h with
    | @kept _ _ ds h =>
      rw [TypeName.dropModifiers_cons, if_pos ⟨rfl, hclosed⟩, TypeName.dropModifiers_cons,
        if_pos ⟨rfl, (h.mem_iff (by decide) (by decide)).mp hclosed⟩]
      exact ih h.behind
    | dropped hc => exact absurd hc (by decide)
    | replaced hc => exact absurd hc (by decide)
  | case3 c r hopen ih =>
    rw [TypeName.dropModifiers_cons, if_neg hopen]
    cases h with
    | @kept _ _ ds h =>
      rw [TypeName.dropModifiers_cons, if_neg]
      · exact .kept c (ih h)
      · rintro ⟨hc, hclosed⟩
        exact hopen ⟨hc, (h.mem_iff (by decide) (by decide)).mpr hclosed⟩
    | dropped hc h => exact .dropped hc (ih h)
    | replaced hc hne hw h =>
      rw [TypeName.dropModifiers_append (not_mem_of_inert (by decide) hw)]
      exact .replaced hc hne hw (ih h)

end Text.Respelled

end SchemaLineage
