import SchemaLineage.Text.Split
/-
What cutting a text does to its parts.

A separator splits the cut of a text in two (`splitWhen_append_cons`), and a text without separators
only lengthens the last piece of what stands before it (`exists_splitWhen_append`).  So blanks at
the end of a text change none of its words (`words_append_of_blank`), and a text has no words when
it is blank and only then (`words_eq_nil_iff`).
-/

namespace SchemaLineage
namespace Text

section
variable {α : Type} {p : α → Bool}

theorem splitWhen_eq_splitOnP (cs : List α) : splitWhen p cs = cs.splitOnP p := by
  induction cs with
  | nil => rfl
  | cons c cs ih =>
    rw [splitWhen, List.splitOnP_cons_eq_if_modifyHead, ← ih]
    cases hs : splitWhen p cs with
    | nil => exact absurd hs (splitWhen_ne_nil p cs)
    | cons w ws => rfl

/-- A piece between separators holds none. -/
theorem not_of_mem_splitWhen {cs w : List α} (hw : w ∈ splitWhen p cs) : ∀ c ∈ w, p c = false := by
  induction cs generalizing w with
  | nil =>
    rw [List.mem_singleton.mp hw]
    simp
  | cons c cs ih =>
    rw [splitWhen] at hw
    by_cases hc : p c = true
    · rw [if_pos hc] at hw
      rcases List.mem_cons.mp hw with rfl | hw
      · simp
      · exact ih hw
    · rw [if_neg hc] at hw
      cases hs : splitWhen p cs with
      | nil => exact absurd hs (splitWhen_ne_nil p cs)
      | cons v vs =>
        rw [hs] at hw ih
        simp only [List.mem_cons] at hw
        rcases hw with rfl | hw
        · intro d hd
          rcases List.mem_cons.mp hd with rfl | hd
          · simpa using hc
          · exact ih List.mem_cons_self d hd
        · exact ih (List.mem_cons_of_mem v hw)

theorem splitWhen_append_cons {c : α} (hc : p c = true) (a b : List α) :
    splitWhen p (a ++ c :: b) = splitWhen p a ++ splitWhen p b := by
  simp only [splitWhen_eq_splitOnP]
  exact List.splitOnP_append_cons a b hc

/-- What holds no separator is added to the last piece. -/
theorem exists_splitWhen_append (a : List α) {b : List α} (hb : ∀ c ∈ b, p c = false) :
    ∃ init last, splitWhen p a = init ++ [last] ∧ splitWhen p (a ++ b) = init ++ [last ++ b] := by
  induction a with
  | nil =>
    refine ⟨[], [], rfl, ?_⟩
    show splitWhen p b = [b]
    rw [splitWhen_eq_splitOnP, List.splitOnP_eq_singleton hb]
  | cons c a ih =>
    obtain ⟨init, last, ha, hab⟩ := ih
    rw [List.cons_append, splitWhen, splitWhen, ha, hab]
    by_cases hc : p c = true
    · rw [if_pos hc, if_pos hc]
      exact ⟨[] :: init, last, rfl, rfl⟩
    · rw [if_neg hc, if_neg hc]
      -- the character joins the first piece, which may be the last one as well
      cases init with
      | nil => exact ⟨[], c :: last, rfl, rfl⟩
      | cons w ws => exact ⟨(c :: w) :: ws, last, rfl, rfl⟩

/-- The longest run at the front of a list ends before the first element of another kind. -/
theorem takeWhile_append_of_head {a b : List α} (ha : ∀ c ∈ a, p c = true)
    (hb : ∀ c ∈ b.head?, p c = false) : (a ++ b).takeWhile p = a := by
  rw [List.takeWhile_append_of_pos ha]
  cases b with
  | nil => exact List.append_nil a
  | cons c b =>
    have hc : p c = false := hb c rfl
    rw [List.takeWhile_cons_of_neg (by simp [hc]), List.append_nil]

theorem dropWhile_append_of_head {a b : List α} (ha : ∀ c ∈ a, p c = true)
    (hb : ∀ c ∈ b.head?, p c = false) : (a ++ b).dropWhile p = b := by
  rw [List.dropWhile_append_of_pos ha]
  cases b with
  | nil => rfl
  | cons c b =>
    have hc : p c = false := hb c rfl
    exact List.dropWhile_cons_of_neg (by simp [hc])

theorem intercalate_eq_nil_iff {sep : List α} {ps : List (List α)} (h : ∀ w ∈ ps, w ≠ []) :
    sep.intercalate ps = [] ↔ ps = [] := by
  constructor
  · intro heq
    cases ps with
    | nil => rfl
    | cons w ws =>
      have hw : w ≠ [] := h w List.mem_cons_self
      cases ws with
      | nil => exact absurd (by simpa using heq) hw
      | cons v vs =>
        rw [List.intercalate_cons_cons, List.append_assoc, List.append_eq_nil_iff] at heq
        exact absurd heq.1 hw
  · rintro rfl
    rfl

end

variable {a b cs : List Char}

theorem ne_nil_of_mem_words {w : List Char} (hw : w ∈ words cs) : w ≠ [] := by
  have hne := (List.mem_filter.mp hw).2
  intro h
  rw [h] at hne
  cases hne

theorem words_append_cons {c : Char} (hc : isBlank c = true) (a b : List Char) :
    words (a ++ c :: b) = words a ++ words b := by
  rw [words, splitWhen_append_cons hc, List.filter_append]
  rfl

theorem words_eq_nil_iff : words cs = [] ↔ ∀ c ∈ cs, isBlank c = true := by
  have hflatten : (splitWhen isBlank cs).flatten = [] ↔ ∀ c ∈ cs, isBlank c = true := by
    rw [splitWhen_flatten, List.filter_eq_nil_iff]
    simp
  rw [← hflatten, words, List.filter_eq_nil_iff, List.flatten_eq_nil_iff]
  simp

theorem words_append_of_blank (a : List Char) (hb : ∀ c ∈ b, isBlank c = true) :
    words (a ++ b) = words a := by
  cases b with
  | nil => rw [List.append_nil]
  | cons c b =>
    have hblank : words b = [] :=
      words_eq_nil_iff.mpr fun d hd => hb d (List.mem_cons_of_mem c hd)
    rw [words_append_cons (hb c List.mem_cons_self), hblank, List.append_nil]

theorem collapse_append_of_blank (a : List Char) (hb : ∀ c ∈ b, isBlank c = true) :
    collapse (a ++ b) = collapse a := by
  rw [collapse, words_append_of_blank a hb]
  rfl

theorem collapse_eq_nil_iff : collapse cs = [] ↔ ∀ c ∈ cs, isBlank c = true := by
  rw [collapse, intercalate_eq_nil_iff fun w hw => ne_nil_of_mem_words hw]
  exact words_eq_nil_iff

/-- The lines of a text hold all of it but the line breaks, which are blank. -/
theorem forall_lines_blank_iff :
    (∀ l ∈ lines cs, ∀ c ∈ l, isBlank c = true) ↔ ∀ c ∈ cs, isBlank c = true := by
  have hmem : ∀ c, (∃ l ∈ lines cs, c ∈ l) ↔ c ∈ cs ∧ isLineBreak c = false := by
    intro c
    rw [← List.mem_flatten, lines, splitWhen_flatten, List.mem_filter]
    simp
  constructor
  · intro h c hc
    by_cases hbreak : isLineBreak c = true
    · exact isBlank_of_isLineBreak hbreak
    · obtain ⟨l, hl, hcl⟩ := (hmem c).mpr ⟨hc, by simpa using hbreak⟩
      exact h l hl c hcl
  · intro h l hl c hc
    exact h c ((hmem c).mp ⟨l, hl, hc⟩).1

end Text
end SchemaLineage
