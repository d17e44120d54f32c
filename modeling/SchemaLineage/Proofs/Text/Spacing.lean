import Mathlib.Data.List.Chain
import SchemaLineage.Proofs.Text.Words
/-
Texts with one blank between words.

What `collapse` returns has blanks only between other characters and never two of them together
(`spaced_collapse`), and such a text, if its blanks are spaces, is returned as it is
(`collapse_of_spaced`), by trimming too (`strip_of_spaced`).  The other characters stay, in their
order (`filter_collapse`).
-/

namespace SchemaLineage
namespace Text

/-- No blank stands first, last or beside another. -/
structure Spaced (cs : List Char) : Prop where
  head : ∀ c ∈ cs.head?, isBlank c = false
  last : ∀ c ∈ cs.getLast?, isBlank c = false
  single : cs.IsChain fun c d => isBlank c = true → isBlank d = false

variable {a b cs w : List Char}

theorem dropWhile_of_head (h : ∀ c ∈ cs.head?, isBlank c = false) : cs.dropWhile isBlank = cs :=
  dropWhile_append_of_head (a := []) nofun h

theorem spaced_of_word (hw : ∀ c ∈ w, isBlank c = false) : Spaced w where
  head c hc := hw c (List.mem_of_mem_head? hc)
  last c hc := hw c (List.mem_of_mem_getLast? hc)
  single := by
    refine List.Pairwise.isChain (List.pairwise_of_forall_mem_list fun c hc d hd => ?_)
    exact fun _ => hw d hd

namespace Spaced

theorem append (ha : Spaced a) (hb : Spaced b) : Spaced (a ++ b) where
  head c hc := by
    rw [List.head?_append, Option.mem_def, Option.or_eq_some_iff] at hc
    rcases hc with hc | ⟨-, hc⟩
    · exact ha.head c hc
    · exact hb.head c hc
  last c hc := by
    rw [List.getLast?_append, Option.mem_def, Option.or_eq_some_iff] at hc
    rcases hc with hc | ⟨-, hc⟩
    · exact hb.last c hc
    · exact ha.last c hc
  single := by
    refine List.isChain_append.mpr ⟨ha.single, hb.single, fun c hc d _ hblank => ?_⟩
    rw [ha.last c hc] at hblank
    cases hblank

theorem append_space (ha : Spaced a) (hb : Spaced b) (hane : a ≠ []) (hbne : b ≠ []) :
    Spaced (a ++ ' ' :: b) := by
  obtain ⟨c, a, rfl⟩ := List.exists_cons_of_ne_nil hane
  obtain ⟨d, b, rfl⟩ := List.exists_cons_of_ne_nil hbne
  refine ⟨fun e he => ha.head e he, fun e he => hb.last e ?_, ?_⟩
  · rwa [List.getLast?_append_cons, List.getLast?_cons_cons] at he
  · refine List.isChain_append.mpr ⟨ha.single, ?_, fun e he f hf hblank => ?_⟩
    · exact List.isChain_cons_cons.mpr ⟨fun _ => hb.head d rfl, hb.single⟩
    · rw [ha.last e he] at hblank
      cases hblank

theorem ne_blank (h : Spaced cs) (hne : cs ≠ []) : ¬ ∀ c ∈ cs, isBlank c = true := by
  obtain ⟨c, cs, rfl⟩ := List.exists_cons_of_ne_nil hne
  intro hall
  have hc := hall c List.mem_cons_self
  rw [h.head c rfl] at hc
  cases hc

/-- A blank has something before it, and a text of the same kind behind it. -/
theorem of_append_cons {c : Char} (h : Spaced (a ++ c :: b)) (hc : isBlank c = true) :
    a ≠ [] ∧ b ≠ [] ∧ Spaced b := by
  have hchain := (List.isChain_append.mp h.single).2.1
  have hane : a ≠ [] := by
    rintro rfl
    rw [h.head c rfl] at hc
    cases hc
  have hbne : b ≠ [] := by
    rintro rfl
    rw [h.last c (by simp)] at hc
    cases hc
  obtain ⟨d, b, rfl⟩ := List.exists_cons_of_ne_nil hbne
  obtain ⟨hd, hchain⟩ := List.isChain_cons_cons.mp hchain
  refine ⟨hane, hbne, fun e he => ?_, fun e he => h.last e ?_, hchain⟩
  · obtain rfl := Option.some.inj he
    exact hd hc
  · rwa [List.getLast?_append_cons, List.getLast?_cons_cons]

end Spaced

theorem spaced_intercalate {ws : List (List Char)}
    (hws : ∀ w ∈ ws, w ≠ [] ∧ ∀ c ∈ w, isBlank c = false) : Spaced ([' '].intercalate ws) := by
  induction ws with
  | nil => exact spaced_of_word (by simp)
  | cons w ws ih =>
    have hw := hws w List.mem_cons_self
    have ih := ih fun v hv => hws v (List.mem_cons_of_mem w hv)
    cases ws with
    | nil => simpa using spaced_of_word hw.2
    | cons v ws =>
      rw [List.intercalate_cons_cons, List.append_assoc, List.singleton_append]
      refine (spaced_of_word hw.2).append_space ih hw.1 fun hnil => ?_
      rw [intercalate_eq_nil_iff fun u hu => (hws u (List.mem_cons_of_mem w hu)).1] at hnil
      cases hnil

theorem not_blank_of_mem_words (hw : w ∈ words cs) : ∀ c ∈ w, isBlank c = false :=
  not_of_mem_splitWhen (List.mem_filter.mp hw).1

theorem spaced_collapse (cs : List Char) : Spaced (collapse cs) :=
  spaced_intercalate fun _ hw => ⟨ne_nil_of_mem_words hw, not_blank_of_mem_words hw⟩

theorem strip_of_spaced (h : Spaced cs) : strip cs = cs := by
  have hback : ∀ c ∈ cs.reverse.head?, isBlank c = false := by
    rw [List.head?_reverse]
    exact h.last
  rw [strip, stripLeft, dropWhile_of_head h.head, stripRight, dropWhile_of_head hback,
    List.reverse_reverse]

theorem mem_intercalate {sep : Char} {ws : List (List Char)} {c : Char}
    (h : c ∈ [sep].intercalate ws) : c = sep ∨ ∃ w ∈ ws, c ∈ w := by
  induction ws with
  | nil => cases h
  | cons w ws ih =>
    cases ws with
    | nil => exact .inr ⟨w, List.mem_cons_self, by simpa using h⟩
    | cons v ws =>
      rw [List.intercalate_cons_cons, List.mem_append, List.mem_append, List.mem_singleton] at h
      rcases h with (hw | hsep) | hrest
      · exact .inr ⟨w, List.mem_cons_self, hw⟩
      · exact .inl hsep
      · rcases ih hrest with hsep | ⟨u, hu, hc⟩
        · exact .inl hsep
        · exact .inr ⟨u, List.mem_cons_of_mem w hu, hc⟩

theorem eq_space_of_mem_collapse {c : Char} (h : c ∈ collapse cs) (hc : isBlank c = true) :
    c = ' ' := by
  rcases mem_intercalate h with hspace | ⟨w, hw, hmem⟩
  · exact hspace
  · rw [not_blank_of_mem_words hw c hmem] at hc
    cases hc

/-- Only blanks are lost, and spaces come in. -/
theorem filter_collapse (cs : List Char) :
    (collapse cs).filter (fun c => !isBlank c) = cs.filter fun c => !isBlank c := by
  have hintercalate : ∀ ws : List (List Char),
      ([' '].intercalate ws).filter (fun c => !isBlank c) =
        ws.flatten.filter fun c => !isBlank c := by
    intro ws
    induction ws with
    | nil => rfl
    | cons w ws ih =>
      cases ws with
      | nil => simp
      | cons v ws =>
        rw [List.intercalate_cons_cons, List.filter_append, ih, List.filter_append,
          List.filter_cons_of_neg (by decide), List.filter_nil, List.append_nil,
          List.flatten_cons (l := w), List.filter_append]
  rw [collapse, hintercalate, words, List.flatten_filter_not_isEmpty, splitWhen_flatten,
    List.filter_filter]
  simp

theorem mem_of_mem_collapse {c : Char} (h : c ∈ collapse cs) (hc : isBlank c = false) : c ∈ cs := by
  have hkept : c ∈ cs.filter fun c => !isBlank c := by
    rw [← filter_collapse]
    exact List.mem_filter.mpr ⟨h, by rw [hc]; rfl⟩
  exact (List.mem_filter.mp hkept).1

theorem words_of_word (hw : ∀ c ∈ w, isBlank c = false) (hne : w ≠ []) : words w = [w] := by
  rw [words, splitWhen_eq_splitOnP, List.splitOnP_eq_singleton hw]
  cases w with
  | nil => exact absurd rfl hne
  | cons c w => rfl

/-- A text in which single spaces separate the words is left as it is. -/
theorem collapse_of_spaced (h : Spaced cs) (hspace : ∀ c ∈ cs, isBlank c = true → c = ' ') :
    collapse cs = cs := by
  -- the word at the front grows with each character until the text is at a blank
  have hword : ∀ w, (∀ c ∈ w, isBlank c = false) → Spaced (w ++ cs) →
      collapse (w ++ cs) = w ++ cs := by
    clear h
    induction cs with
    | nil =>
      intro w hw _
      by_cases hne : w = []
      · rw [hne]
        rfl
      · rw [List.append_nil, collapse, words_of_word hw hne]
        exact List.intercalate_singleton
    | cons c cs ih =>
      have ih := ih fun d hd => hspace d (List.mem_cons_of_mem c hd)
      intro w hw hspaced
      by_cases hc : isBlank c = true
      · obtain ⟨hne, hcsne, hcs⟩ := hspaced.of_append_cons hc
        have hwords : words cs ≠ [] := fun hnil => hcs.ne_blank hcsne (words_eq_nil_iff.mp hnil)
        obtain ⟨v, ws, hvs⟩ := List.exists_cons_of_ne_nil hwords
        have hrest : [' '].intercalate (v :: ws) = cs := by
          rw [← hvs]
          exact ih [] (by simp) hcs
        rw [collapse, words_append_cons hc, words_of_word hw hne, hvs, List.singleton_append,
          List.intercalate_cons_cons, hrest, hspace c List.mem_cons_self hc, List.append_assoc]
        rfl
      · rw [← List.singleton_append, ← List.append_assoc] at hspaced ⊢
        refine ih (w ++ [c]) (fun d hd => ?_) hspaced
        rcases List.mem_append.mp hd with hd | hd
        · exact hw d hd
        · rw [List.mem_singleton.mp hd]
          exact Bool.eq_false_iff.mpr hc
  exact hword [] (by simp) h

end Text
end SchemaLineage
