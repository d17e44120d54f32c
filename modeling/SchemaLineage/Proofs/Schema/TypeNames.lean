import SchemaLineage.Proofs.Schema.Modifiers
import SchemaLineage.Proofs.Text.Spacing
/-
Canonical names of types.

The steps that make a type's name run one after the other, and none brings back what one before it
has taken away: what they leave is `Settled`, and a settled name is left as it is by all of them.
Cutting array brackets off such a name and putting them back keeps it settled, since the scan for
brackets stops only where there are none (`Bare`), and the names that aliases stand for are settled
themselves and no aliases.  So the names that are returned as they are can be told by their form
(`normalize_eq_self_iff`), and every name that is returned has it (`normalize_canonical`), but for
the empty name of a type that has nothing besides modifiers (`normalize_eq_empty_iff`).
-/

namespace SchemaLineage
namespace TypeName

open Text

variable {cs : List Char}

/-! ## Array brackets -/

/-- The text ends neither with brackets nor with a blank. -/
structure Bare (cs : List Char) : Prop where
  unbracketed : ¬ ['[', ']'] <:+ cs
  last : ∀ c ∈ cs.getLast?, isBlank c = false

/-- Brackets with their last character first, as `peelBack` meets them. -/
def bracketsBack (n : Nat) : List Char := (List.replicate n [']', '[']).flatten

theorem reverse_brackets (n : Nat) : (brackets n).toList.reverse = bracketsBack n := by
  rw [brackets, String.toList_join, List.flatMap_replicate, List.reverse_flatten,
    List.map_replicate, List.reverse_replicate]
  rfl

theorem mem_brackets {n : Nat} : ∀ c ∈ (brackets n).toList, c = '[' ∨ c = ']' := by
  intro c hc
  rw [← List.mem_reverse, reverse_brackets, bracketsBack, List.mem_flatten] at hc
  obtain ⟨w, hw, hc⟩ := hc
  rw [(List.mem_replicate.mp hw).2] at hc
  simpa [or_comm] using hc

theorem brackets_eq_empty {n : Nat} (h : brackets n = "") : n = 0 := by
  have hback := reverse_brackets n
  rw [h] at hback
  cases n with
  | zero => rfl
  | succ n => cases hback

theorem peelBack_of_stop (h : ¬ [']', '['] <+: cs) : peelBack cs = (0, cs) := by
  rw [peelBack]
  rintro r rfl
  exact h ⟨r, rfl⟩

theorem bracketsBack_succ (n : Nat) (cs : List Char) :
    bracketsBack (n + 1) ++ cs = ']' :: '[' :: (bracketsBack n ++ cs) := by
  rw [bracketsBack, List.replicate_succ]
  rfl

theorem head_bracketsBack (n : Nat) (hhead : ∀ c ∈ cs.head?, isBlank c = false) :
    ∀ c ∈ (bracketsBack n ++ cs).head?, isBlank c = false := by
  cases n with
  | zero => exact hhead
  | succ n =>
    intro c hc
    obtain rfl : ']' = c := Option.some.inj hc
    decide

theorem peelBack_bracketsBack (n : Nat) (h : ¬ [']', '['] <+: cs)
    (hhead : ∀ c ∈ cs.head?, isBlank c = false) : peelBack (bracketsBack n ++ cs) = (n, cs) := by
  induction n with
  | zero => exact peelBack_of_stop h
  | succ n ih =>
    rw [bracketsBack_succ, peelBack, dropWhile_of_head (head_bracketsBack n hhead), ih]

theorem peelBack_stops (cs : List Char) :
    (peelBack cs).2 <:+ cs ∧ ¬ [']', '['] <+: (peelBack cs).2 ∧
      ((∀ c ∈ cs.head?, isBlank c = false) → ∀ c ∈ (peelBack cs).2.head?, isBlank c = false) := by
  induction cs using peelBack.induct with
  | case1 r n base hpeel ih =>
    obtain ⟨hsuffix, hstop, hhead⟩ := ih
    have hnext : ∀ c ∈ (r.dropWhile isBlank).head?, isBlank c = false := by
      intro c hc
      have hnot := List.head?_dropWhile_not isBlank r
      rw [hc] at hnot
      exact hnot
    rw [peelBack]
    refine ⟨?_, hstop, fun _ => hhead hnext⟩
    exact (hsuffix.trans (List.dropWhile_suffix _)).trans ⟨[']', '['], rfl⟩
  | case2 r h =>
    have hstop : ¬ [']', '['] <+: r := by
      rintro ⟨b, rfl⟩
      exact h b rfl
    rw [peelBack_of_stop hstop]
    exact ⟨List.suffix_rfl, hstop, id⟩

/-- Where no blank stands before brackets, what is cut off can be put back. -/
theorem bracketsBack_peelBack
    (h : ∀ n r, cs = bracketsBack (n + 1) ++ r → ∀ c ∈ r.head?, isBlank c = false) :
    bracketsBack (peelBack cs).1 ++ (peelBack cs).2 = cs := by
  induction cs using peelBack.induct with
  | case1 r n base hpeel ih =>
    have hkept := dropWhile_of_head (h 0 r rfl)
    have ih : bracketsBack (peelBack r).1 ++ (peelBack r).2 = r := by
      rw [hkept] at ih
      refine ih fun m s hs => h (m + 1) s ?_
      rw [bracketsBack_succ, ← hs]
    rw [peelBack, hkept, bracketsBack_succ, ih]
  | case2 r hstop =>
    rw [peelBack]
    · rfl
    · exact hstop

/-- Neither does a blank stand before any of the brackets that are put behind such a text. -/
theorem head_of_bracketsBack {r : List Char} {m n : Nat} (hstop : ¬ [']', '['] <+: cs)
    (hhead : ∀ c ∈ cs.head?, isBlank c = false)
    (h : bracketsBack n ++ cs = bracketsBack (m + 1) ++ r) : ∀ c ∈ r.head?, isBlank c = false := by
  induction n generalizing m with
  | zero =>
    rw [bracketsBack_succ] at h
    exact absurd ⟨_, h.symm⟩ hstop
  | succ n ih =>
    rw [bracketsBack_succ, bracketsBack_succ] at h
    have hrest := (List.cons.inj (List.cons.inj h).2).2
    cases m with
    | zero =>
      obtain rfl : r = bracketsBack n ++ cs := hrest.symm
      exact head_bracketsBack n hhead
    | succ m => exact ih hrest

theorem peel_eq (cs : List Char) :
    peel cs = ((peelBack cs.reverse).1, (peelBack cs.reverse).2.reverse) := rfl

theorem peel_isPrefix (cs : List Char) : (peel cs).2 <+: cs := by
  have hsuffix := (peelBack_stops cs.reverse).1
  rwa [← List.reverse_prefix, List.reverse_reverse] at hsuffix

theorem bare_peel (hlast : ∀ c ∈ cs.getLast?, isBlank c = false) : Bare (peel cs).2 := by
  obtain ⟨-, hstop, hhead⟩ := peelBack_stops cs.reverse
  refine ⟨fun hbrackets => hstop ?_, ?_⟩
  · rwa [← List.reverse_prefix, peel_eq, List.reverse_reverse] at hbrackets
  · rw [peel_eq, List.getLast?_reverse]
    refine hhead ?_
    rwa [List.head?_reverse]

theorem Bare.back (h : Bare cs) :
    ¬ [']', '['] <+: cs.reverse ∧ ∀ c ∈ cs.reverse.head?, isBlank c = false := by
  constructor
  · intro hbrackets
    refine h.unbracketed (List.reverse_prefix.mp ?_)
    exact hbrackets
  · rw [List.head?_reverse]
    exact h.last

/-- Brackets that are put behind a text without any are what is cut off. -/
theorem Bare.peel_append (h : Bare cs) (n : Nat) : peel (cs ++ (brackets n).toList) = (n, cs) := by
  obtain ⟨hstop, hhead⟩ := h.back
  rw [peel_eq, List.reverse_append, reverse_brackets, peelBack_bracketsBack n hstop hhead,
    List.reverse_reverse]

/-- No blank stands before brackets at the end. -/
def Attached (cs : List Char) : Prop :=
  ∀ base n, cs ≠ base ++ ' ' :: (brackets (n + 1)).toList

theorem reverse_append_brackets (base : List Char) (n : Nat) :
    (base ++ ' ' :: (brackets n).toList).reverse = bracketsBack n ++ ' ' :: base.reverse := by
  rw [List.reverse_append, List.reverse_cons, reverse_brackets, List.append_assoc,
    List.singleton_append]

theorem Bare.attached (h : Bare cs) (n : Nat) : Attached (cs ++ (brackets n).toList) := by
  obtain ⟨hstop, hhead⟩ := h.back
  intro base m heq
  have hback := congrArg List.reverse heq
  rw [List.reverse_append, reverse_brackets, reverse_append_brackets] at hback
  exact absurd (head_of_bracketsBack hstop hhead hback ' ' rfl) (by decide)

/-- Nothing but blanks is lost with the brackets. -/
theorem Attached.append_peel (h : Attached cs) (hspace : ∀ c ∈ cs, isBlank c = true → c = ' ') :
    (peel cs).2 ++ (brackets (peel cs).1).toList = cs := by
  have hback : bracketsBack (peelBack cs.reverse).1 ++ (peelBack cs.reverse).2 = cs.reverse := by
    refine bracketsBack_peelBack fun n r hr c hc => Bool.eq_false_iff.mpr fun hblank => ?_
    obtain ⟨r, rfl⟩ := List.head?_eq_some_iff.mp hc
    have hmem : c ∈ cs := by
      rw [← List.mem_reverse, hr]
      exact List.mem_append_right _ List.mem_cons_self
    obtain rfl := hspace c hmem hblank
    refine h r.reverse n (List.reverse_inj.mp ?_)
    rw [hr, reverse_append_brackets, List.reverse_reverse]
  rw [← List.reverse_inj, List.reverse_append, reverse_brackets, peel_eq, List.reverse_reverse,
    hback]

/-- Nothing is cut off but with a pair of brackets. -/
theorem eq_nil_of_peel (h : peel cs = (0, [])) : cs = [] := by
  have hback : peelBack cs.reverse = (0, []) := by
    rw [peel_eq, Prod.mk.injEq, List.reverse_eq_nil_iff] at h
    exact Prod.ext h.1 h.2
  rw [← List.reverse_eq_nil_iff]
  revert hback
  cases cs.reverse using peelBack.fun_cases with
  | case1 r n base hpeel =>
    intro hback
    rw [peelBack, hpeel] at hback
    cases hback
  | case2 r h =>
    intro hback
    rw [peelBack] at hback
    · exact (Prod.mk.inj hback).2
    · exact h

/-! ## Settled names -/

/-- There is nothing in the name that one of the steps would change. -/
structure Settled (cs : List Char) : Prop where
  uncased : ∀ c ∈ cs, Uncased c
  spaced : Spaced cs
  space : ∀ c ∈ cs, isBlank c = true → c = ' '
  unquoted : '"' ∉ cs
  unmodified : ¬ ['(', ')'].Sublist cs

theorem filter_of_unquoted (h : '"' ∉ cs) : cs.filter (· != '"') = cs := by
  refine List.filter_eq_self.mpr fun c hc => ?_
  rw [bne_iff_ne]
  rintro rfl
  exact h hc

theorem Settled.plain_eq (h : Settled cs) : plain cs = cs := by
  rw [plain, strip_of_spaced h.spaced, lower_of_uncased h.uncased,
    dropModifiers_of_not_sublist h.unmodified, collapse_of_spaced h.spaced h.space,
    filter_of_unquoted h.unquoted]

theorem unquoted_collapse (hquotes : '"' ∉ cs) :
    '"' ∉ collapse (dropModifiers (lower (strip cs))) := by
  intro hmem
  have hlower := (dropModifiers_sublist _).subset (mem_of_mem_collapse hmem (by decide))
  rw [← (respelled_lower _).mem_iff (by decide) (by decide)] at hlower
  exact hquotes (((respelled_strip cs).mem_iff (by decide) (by decide)).mpr hlower)

/-- Without quotes in a name, the last step has nothing to do. -/
theorem plain_of_unquoted (hquotes : '"' ∉ cs) :
    plain cs = collapse (dropModifiers (lower (strip cs))) :=
  filter_of_unquoted (unquoted_collapse hquotes)

theorem settled_plain (hquotes : '"' ∉ cs) : Settled (plain cs) := by
  rw [plain_of_unquoted hquotes]
  refine ⟨fun c hc => ?_, spaced_collapse _, fun _ => eq_space_of_mem_collapse,
    unquoted_collapse hquotes, fun hsub => ?_⟩
  · by_cases hblank : isBlank c = true
    · rw [eq_space_of_mem_collapse hc hblank]
      exact uncased_of_basic (by decide)
    · have hkept := mem_of_mem_collapse hc (Bool.eq_false_iff.mpr hblank)
      exact uncased_of_mem_lower c ((dropModifiers_sublist _).subset hkept)
  · -- collapsing keeps the parentheses in their order
    have hkept := hsub.filter fun c => !isBlank c
    rw [filter_collapse] at hkept
    exact not_sublist_dropModifiers _ (hkept.trans List.filter_sublist)

theorem Settled.of_isPrefix {base : List Char} (h : Settled cs) (hbase : base <+: cs)
    (hlast : ∀ c ∈ base.getLast?, isBlank c = false) : Settled base where
  uncased c hc := h.uncased c (hbase.subset hc)
  spaced := {
    head := fun c hc => by
      obtain ⟨b, rfl⟩ := hbase
      exact h.spaced.head c (by rw [List.head?_append, hc]; rfl)
    last := hlast
    single := h.spaced.single.prefix hbase }
  space c hc := h.space c (hbase.subset hc)
  unquoted hmem := h.unquoted (hbase.subset hmem)
  unmodified hsub := h.unmodified (hsub.trans hbase.sublist)

theorem Settled.append_brackets (h : Settled cs) (n : Nat) :
    Settled (cs ++ (brackets n).toList) := by
  have hbracket : ∀ c ∈ (brackets n).toList, Uncased c ∧ isBlank c = false ∧ c ≠ '"' ∧ c ≠ ')' := by
    intro c hc
    rcases mem_brackets c hc with rfl | rfl
    · exact ⟨uncased_of_basic (by decide), by decide⟩
    · exact ⟨uncased_of_basic (by decide), by decide⟩
  refine ⟨fun c hc => ?_, ?_, fun c hc hblank => ?_, fun hmem => ?_, fun hsub => ?_⟩
  · exact (List.mem_append.mp hc).elim (h.uncased c) fun hc => (hbracket c hc).1
  · exact h.spaced.append (spaced_of_word fun c hc => (hbracket c hc).2.1)
  · rcases List.mem_append.mp hc with hc | hc
    · exact h.space c hc hblank
    · rw [(hbracket c hc).2.1] at hblank
      cases hblank
  · rcases List.mem_append.mp hmem with hmem | hmem
    · exact h.unquoted hmem
    · exact (hbracket _ hmem).2.2.1 rfl
  · -- the closing parenthesis is not among the brackets, so all of the modifier is before them
    obtain ⟨a, b, hab, ha, hb⟩ := List.sublist_append_iff.mp hsub
    cases b using List.reverseRecOn with
    | nil =>
      rw [List.append_nil] at hab
      exact h.unmodified (hab ▸ ha)
    | append_singleton b c =>
      have hc : c = ')' := by
        have hlast := congrArg List.getLast? hab
        rw [← List.append_assoc, List.getLast?_concat] at hlast
        exact (Option.some.inj hlast).symm
      exact (hbracket c (hb.subset (by simp))).2.2.2 hc

theorem settled_of_plain_eq (hquotes : '"' ∉ cs) (h : plain cs = cs) : Settled cs := by
  have hsettled := settled_plain hquotes
  rwa [h] at hsettled

theorem Settled.bare_of_peel_eq (h : Settled cs) (hpeel : (peel cs).2 = cs) : Bare cs := by
  have hbare := bare_peel h.spaced.last
  rwa [hpeel] at hbare

/-! ## Aliases -/

/-- The names that do not come from a catalog: aliases, what they stand for, and that of no type. -/
def vocabulary : List String := unknown :: aliases.flatMap fun e => [e.1, e.2]

theorem vocabulary_kept : vocabulary.all (fun name => plain name.toList = name.toList &&
    (peel name.toList).2 = name.toList && !name.toList.contains '"' && name != "") = true := by
  decide +kernel

/-- What an alias stands for is no alias, and neither is the name of no type. -/
theorem lookup_spelledOut : (unknown :: aliases.map (·.2)).all
    (fun name => aliases.lookup name = none) = true := by decide +kernel

theorem settled_of_vocabulary {name : String} (h : name ∈ vocabulary) :
    Settled name.toList ∧ Bare name.toList ∧ name ≠ "" := by
  have hkept := List.all_eq_true.mp vocabulary_kept name h
  simp only [Bool.and_eq_true, decide_eq_true_eq, Bool.not_eq_true', List.contains_eq_mem,
    decide_eq_false_iff_not, bne_iff_ne] at hkept
  obtain ⟨⟨⟨hplain, hpeel⟩, hquotes⟩, hne⟩ := hkept
  have hsettled := settled_of_plain_eq hquotes hplain
  exact ⟨hsettled, hsettled.bare_of_peel_eq hpeel, hne⟩

theorem mem_aliases_of_lookup {name spelled : String} (h : aliases.lookup name = some spelled) :
    spelled ∈ aliases.map (·.2) := by
  obtain ⟨before, after, hsplit, -⟩ := List.lookup_eq_some_iff.mp h
  rw [hsplit]
  simp

theorem mem_vocabulary_of_spelled {name : String} (h : name ∈ unknown :: aliases.map (·.2)) :
    name ∈ vocabulary := by
  rcases List.mem_cons.mp h with rfl | h
  · exact List.mem_cons_self
  · obtain ⟨e, he, rfl⟩ := List.mem_map.mp h
    exact List.mem_cons_of_mem _ (List.mem_flatMap.mpr ⟨e, he, by simp⟩)

/-- The name with what an alias stands for in its place. -/
def spelledOut (name : String) : String := (aliases.lookup name).getD name

theorem spelledOut_cases (name : String) :
    (aliases.lookup name = none ∧ spelledOut name = name) ∨
      spelledOut name ∈ unknown :: aliases.map (·.2) := by
  unfold spelledOut
  cases hlookup : aliases.lookup name with
  | none => exact .inl ⟨rfl, rfl⟩
  | some spelled => exact .inr (List.mem_cons_of_mem _ (mem_aliases_of_lookup hlookup))

/-! ## Canonical names -/

theorem normalize_of_text {raw : Option String}
    (h : ¬ ∀ c ∈ (raw.getD "").toList, isBlank c = true) :
    normalize raw = spelledOut (String.ofList (peel (plain (raw.getD "").toList)).2) ++
      brackets (peel (plain (raw.getD "").toList)).1 := by
  rw [normalize, if_neg]
  · rfl
  · rwa [List.all_eq_true]

theorem normalize_of_blank {raw : Option String}
    (h : ∀ c ∈ (raw.getD "").toList, isBlank c = true) : normalize raw = unknown := by
  rw [normalize, if_pos]
  rwa [List.all_eq_true]

/-- A name that all steps leave as it is, without brackets at its end. -/
structure Ground (name : String) : Prop where
  settled : Settled name.toList
  bare : Bare name.toList
  lookup : aliases.lookup name = none

theorem ground_of_spelled {name : String} (h : name ∈ unknown :: aliases.map (·.2)) :
    Ground name where
  settled := (settled_of_vocabulary (mem_vocabulary_of_spelled h)).1
  bare := (settled_of_vocabulary (mem_vocabulary_of_spelled h)).2.1
  lookup := of_decide_eq_true (List.all_eq_true.mp lookup_spelledOut name h)

theorem ground_spelledOut {name : String} (hsettled : Settled name.toList)
    (hbare : Bare name.toList) : Ground (spelledOut name) := by
  rcases spelledOut_cases name with ⟨hlookup, hsame⟩ | hspelled
  · rw [hsame]
    exact ⟨hsettled, hbare, hlookup⟩
  · exact ground_of_spelled hspelled

/-- Every type's name is such a name with brackets behind it. -/
theorem normalize_eq_ground {raw : Option String} (hquotes : '"' ∉ (raw.getD "").toList) :
    ∃ name n, normalize raw = name ++ brackets n ∧ Ground name := by
  by_cases hblank : ∀ c ∈ (raw.getD "").toList, isBlank c = true
  · exact ⟨unknown, 0, normalize_of_blank hblank, ground_of_spelled List.mem_cons_self⟩
  · have hsettled := settled_plain hquotes
    have hbare := bare_peel hsettled.spaced.last
    refine ⟨_, _, normalize_of_text hblank, ground_spelledOut ?_ ?_⟩
    · rw [String.toList_ofList]
      exact hsettled.of_isPrefix (peel_isPrefix _) hbare.last
    · rwa [String.toList_ofList]

/-- A name of this form is returned as it is. -/
theorem Ground.normalize_eq {name : String} (h : Ground name) {n : Nat}
    (hne : name ++ brackets n ≠ "") :
    normalize (some (name ++ brackets n)) = name ++ brackets n := by
  have hsettled := h.settled.append_brackets n
  have hblank : ¬ ∀ c ∈ ((some (name ++ brackets n)).getD "").toList, isBlank c = true := by
    rw [Option.getD_some, String.toList_append]
    refine hsettled.spaced.ne_blank fun hnil => hne (String.toList_injective ?_)
    rw [String.toList_append, hnil]
    rfl
  rw [normalize_of_text hblank, Option.getD_some, String.toList_append, hsettled.plain_eq,
    h.bare.peel_append, String.ofList_toList, spelledOut, h.lookup, Option.getD_none]

theorem spelledOut_eq_empty {name : String} (h : spelledOut name = "") : name = "" := by
  rcases spelledOut_cases name with ⟨-, hsame⟩ | hspelled
  · rwa [hsame] at h
  · exact absurd h (settled_of_vocabulary (mem_vocabulary_of_spelled hspelled)).2.2

theorem normalize_eq_empty_iff_plain {raw : Option String}
    (h : ¬ ∀ c ∈ (raw.getD "").toList, isBlank c = true) :
    normalize raw = "" ↔ plain (raw.getD "").toList = [] := by
  rw [normalize_of_text h]
  constructor
  · intro hempty
    obtain ⟨hname, hbrackets⟩ := String.append_eq_empty_iff.mp hempty
    refine eq_nil_of_peel (Prod.ext (brackets_eq_empty hbrackets) ?_)
    exact String.ofList_eq_empty_iff.mp (spelledOut_eq_empty hname)
  · intro hplain
    have hbare : Bare [] := ⟨by decide, nofun⟩
    have hpeel : peel [] = (0, []) := hbare.peel_append 0
    rw [hplain, hpeel]
    rfl

/-- Neither trimming nor lowercase decides whether there is text outside of modifiers. -/
theorem plain_eq_nil_iff (hquotes : '"' ∉ cs) :
    plain cs = [] ↔ ∀ i c, cs[i]? = some c → isBlank c = false → Enclosed cs i := by
  rw [plain_of_unquoted hquotes, collapse_eq_nil_iff,
    ← (respelled_lower (strip cs)).dropModifiers.forall_blank_iff,
    ← (respelled_strip cs).dropModifiers.forall_blank_iff]
  constructor
  · intro hblank i c hi hc
    by_contra hout
    rw [hblank c (mem_dropModifiers_iff.mpr ⟨i, hi, hout⟩)] at hc
    cases hc
  · intro henclosed c hc
    obtain ⟨i, hi, hout⟩ := mem_dropModifiers_iff.mp hc
    by_contra hblank
    exact hout (henclosed i c hi (Bool.eq_false_iff.mpr hblank))

/-- A type is left without a name if the catalog's name has text, but only in modifiers. -/
theorem normalize_eq_empty_iff {raw : Option String} (hquotes : '"' ∉ (raw.getD "").toList) :
    normalize raw = "" ↔ (¬ ∀ c ∈ (raw.getD "").toList, isBlank c = true) ∧
      ∀ i c, (raw.getD "").toList[i]? = some c → isBlank c = false →
        Enclosed (raw.getD "").toList i := by
  by_cases hblank : ∀ c ∈ (raw.getD "").toList, isBlank c = true
  · rw [normalize_of_blank hblank]
    exact iff_of_false (by decide) fun h => h.1 hblank
  · rw [normalize_eq_empty_iff_plain hblank, plain_eq_nil_iff hquotes, and_iff_right hblank]

/-- The names that types have: in lowercase, single spaces between words and none before brackets,
without quotes and modifiers, and no alias even with brackets behind it. -/
structure Canonical (name : String) : Prop extends Settled name.toList where
  nonempty : name ≠ ""
  attached : Attached name.toList
  unaliased : ∀ short ∈ aliases.map (·.1), ∀ n, name ≠ short ++ brackets n

theorem Ground.canonical {name : String} (h : Ground name) {n : Nat}
    (hne : name ++ brackets n ≠ "") : Canonical (name ++ brackets n) := by
  have hsettled := h.settled.append_brackets n
  have hattached := h.bare.attached n
  rw [← String.toList_append] at hsettled hattached
  refine ⟨hsettled, hne, hattached, fun short hshort m heq => ?_⟩
  obtain ⟨e, he, rfl⟩ := List.mem_map.mp hshort
  have hknown : e.1 ∈ vocabulary :=
    List.mem_cons_of_mem _ (List.mem_flatMap.mpr ⟨e, he, List.mem_cons_self⟩)
  -- brackets are cut off alike on both sides, so the alias would be the name itself
  have hpeel := congrArg (fun s => peel s.toList) heq
  have hbare := (settled_of_vocabulary hknown).2.1
  simp only [String.toList_append, h.bare.peel_append, hbare.peel_append, Prod.mk.injEq,
    String.toList_inj] at hpeel
  have hnone := List.lookup_eq_none_iff.mp h.lookup e he
  rw [hpeel.2, bne_self_eq_false] at hnone
  cases hnone

/-- Without its brackets, a canonical name is one that all steps leave as it is. -/
theorem Canonical.eq_ground {name : String} (h : Canonical name) :
    ∃ base n, name = base ++ brackets n ∧ Ground base := by
  have hbare := bare_peel h.spaced.last
  have happend := h.attached.append_peel h.space
  have hname : name = String.ofList (peel name.toList).2 ++ brackets (peel name.toList).1 := by
    refine String.toList_injective ?_
    rw [String.toList_append, String.toList_ofList, happend]
  refine ⟨_, _, hname, ?_, ?_, List.lookup_eq_none_iff.mpr fun e he => ?_⟩
  · rw [String.toList_ofList]
    exact h.toSettled.of_isPrefix (peel_isPrefix _) hbare.last
  · rwa [String.toList_ofList]
  · rw [bne_iff_ne]
    intro heq
    rw [heq] at hname
    exact h.unaliased e.1 (List.mem_map_of_mem he) _ hname

/-- Quotes are taken out of every name, and none come in again. -/
theorem unquoted_normalize (raw : Option String) : '"' ∉ (normalize raw).toList := by
  by_cases hblank : ∀ c ∈ (raw.getD "").toList, isBlank c = true
  · rw [normalize_of_blank hblank]
    decide
  · rw [normalize_of_text hblank, String.toList_append, List.mem_append, not_or]
    constructor
    · rcases spelledOut_cases (String.ofList (peel (plain (raw.getD "").toList)).2) with
        ⟨-, hsame⟩ | hspelled
      · rw [hsame, String.toList_ofList]
        intro hquote
        have hplain := (List.mem_filter.mp ((peel_isPrefix _).subset hquote)).2
        cases hplain
      · exact (settled_of_vocabulary (mem_vocabulary_of_spelled hspelled)).1.unquoted
    · intro hquote
      exact absurd (mem_brackets _ hquote) (by decide)

/-- The canonical names are those that are returned as they are. -/
theorem normalize_eq_self_iff {name : String} : normalize (some name) = name ↔ Canonical name := by
  constructor
  · intro h
    have hquotes : '"' ∉ ((some name).getD "").toList := by
      have hnone := unquoted_normalize (some name)
      rwa [h] at hnone
    have hne : name ≠ "" := by
      rintro rfl
      rw [normalize_of_blank (by simp)] at h
      exact absurd h (by decide)
    obtain ⟨base, n, heq, hground⟩ := normalize_eq_ground hquotes
    rw [h] at heq
    rw [heq] at hne ⊢
    exact hground.canonical hne
  · intro h
    obtain ⟨base, n, heq, hground⟩ := h.eq_ground
    have hne := h.nonempty
    rw [heq] at hne ⊢
    exact hground.normalize_eq hne

/-- Types get canonical names, and these are the names that are returned as they are: whatever
brackets, blanks, parentheses and aliases are in a name, no step brings back what another one has
taken away. -/
theorem normalize_canonical {raw : Option String} (hquotes : '"' ∉ (raw.getD "").toList)
    (htext : (∀ c ∈ (raw.getD "").toList, isBlank c = true) ∨
      ∃ i c, (raw.getD "").toList[i]? = some c ∧ isBlank c = false ∧
        ¬ Enclosed (raw.getD "").toList i) :
    Canonical (normalize raw) ∧ normalize (some (normalize raw)) = normalize raw ∧
      ∀ name, normalize (some name) = name ↔ Canonical name := by
  have hne : normalize raw ≠ "" := by
    intro hempty
    obtain ⟨htold, hall⟩ := (normalize_eq_empty_iff hquotes).mp hempty
    rcases htext with hblank | ⟨i, c, hi, hc, hout⟩
    · exact htold hblank
    · exact hout (hall i c hi hc)
  obtain ⟨name, n, heq, hground⟩ := normalize_eq_ground hquotes
  rw [heq] at hne ⊢
  exact ⟨hground.canonical hne, hground.normalize_eq hne, fun _ => normalize_eq_self_iff⟩

/-- A parenthesis opened twice, capital letters and two pairs of brackets with blanks before. -/
theorem int8_arrays_canonical :
    normalize (some "INT8((19) []\t[] ") = "bigint[][]" ∧
      Canonical (normalize (some "INT8((19) []\t[] ")) := by
  refine ⟨by decide +kernel, (normalize_canonical (by decide) ?_).1⟩
  refine .inr ⟨0, 'I', rfl, by decide, ?_⟩
  rintro ⟨first, last, hfirst, -, hopen, -⟩
  obtain rfl := Nat.le_zero.mp hfirst
  exact absurd hopen (by decide)

end TypeName
end SchemaLineage
