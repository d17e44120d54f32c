import SchemaLineage.Proofs.Text.Words
import SchemaLineage.Text.Case
/-
What lowercase leaves alone.

A character that is the lowercase of another has itself no lowercase to go to.  The table of runs is
searched for that by runs and not by characters: no run takes its images to where another one, or
the run itself, begins to map (`lowerRuns_apart`).  So lowercase has nothing to do in its own result
(`uncased_of_mem_lower`, `lower_of_uncased`), although it looks at the letters around a sigma.

Neither does lowercase change or make blanks, digits or the punctuation before the letters
(`respelled_lower`).
-/

namespace SchemaLineage
namespace Text

/-! ## One character -/

/-- Lowercase maps the character to itself. -/
def Uncased (c : Char) : Prop :=
  (∀ r ∈ lowerRuns, r.image? c.toNat = none) ∧ lowerExpansions.lookup c.toNat = none

/-- Blanks, and all that stands before the letters. -/
def isInert (c : Char) : Bool := c.toNat < 65 || isBlank c

/-- No inert character stands from one code point to another. -/
def clearOfInert (low high : Nat) : Bool :=
  65 ≤ low && [(0x85, 0x85), (0xA0, 0xA0), (0x1680, 0x1680), (0x2000, 0x200A), (0x2028, 0x2029),
    (0x202F, 0x202F), (0x205F, 0x205F), (0x3000, 0x3000)].all fun b => high < b.1 || b.2 < low

namespace CaseRun

def firstImage (r : CaseRun) : Nat := (r.first + r.shift).toNat

def lastImage (r : CaseRun) : Nat := (r.last + r.shift).toNat

/-- The images of the first run are not mapped by the second one: they lie beside it, or between the
code points that it maps. -/
def apart (r q : CaseRun) : Bool :=
  Nat.blt r.lastImage q.first || Nat.blt q.last r.firstImage ||
    (q.step = 2 && (r.firstImage + q.first) % 2 = 1 && (r.step = 2 || r.first = r.last))

/-- The run maps characters that are not inert to others, and none to the one that the runs leave
out. -/
def sound (r : CaseRun) : Bool :=
  clearOfInert r.first r.last && clearOfInert r.firstImage r.lastImage && 0 ≤ r.first + r.shift &&
    (r.lastImage < 304 || 304 < r.firstImage) &&
    (r.lastImage < 0xD800 || (0xDFFF < r.firstImage && r.lastImage < 0x110000))

end CaseRun

theorem lowerRuns_apart : (lowerRuns.all fun r => lowerRuns.all r.apart) = true := by
  decide +kernel

theorem lowerRuns_sound : lowerRuns.all CaseRun.sound = true := by decide +kernel

theorem CaseRun.image?_eq_some {r : CaseRun} {n m : Nat} (h : r.image? n = some m) :
    r.first ≤ n ∧ n ≤ r.last ∧ (n - r.first) % r.step = 0 ∧ (n + r.shift).toNat = m := by
  unfold image? at h
  split at h
  · rename_i hn
    exact ⟨hn.1, hn.2.1, hn.2.2, Option.some.inj h⟩
  · cases h

/-- Where a run maps to, told from its ends. -/
theorem CaseRun.image_range {r : CaseRun} (hr : r ∈ lowerRuns) {n m : Nat}
    (h : r.image? n = some m) : m = r.firstImage + (n - r.first) ∧ m ≤ r.lastImage := by
  obtain ⟨hfirst, hlast, -, rfl⟩ := image?_eq_some h
  have hsound := List.all_eq_true.mp lowerRuns_sound r hr
  simp only [sound, Bool.and_eq_true, decide_eq_true_eq] at hsound
  obtain ⟨⟨⟨-, hpositive⟩, -⟩, -⟩ := hsound
  unfold firstImage lastImage
  omega

theorem CaseRun.image?_image {r q : CaseRun} (hr : r ∈ lowerRuns) (hq : q ∈ lowerRuns) {n m : Nat}
    (h : r.image? n = some m) : q.image? m = none := by
  obtain ⟨hm, hlast⟩ := image_range hr h
  obtain ⟨hn, hn', hstep, -⟩ := image?_eq_some h
  have hapart := List.all_eq_true.mp (List.all_eq_true.mp lowerRuns_apart r hr) q hq
  simp only [apart, Bool.or_eq_true, Bool.and_eq_true, decide_eq_true_eq, Nat.blt_eq] at hapart
  unfold image?
  rw [if_neg]
  rintro ⟨hqfirst, hqlast, hqstep⟩
  rcases hapart with (hbefore | hbehind) | ⟨⟨htwo, hodd⟩, hr2 | hone⟩
  · omega
  · omega
  · rw [htwo] at hqstep
    rw [hr2] at hstep
    omega
  · rw [htwo] at hqstep
    omega

theorem isInert_of_clear {low high : Nat} (h : clearOfInert low high = true) {c : Char}
    (hlow : low ≤ c.toNat) (hhigh : c.toNat ≤ high) : isInert c = false := by
  simp only [clearOfInert, List.all_cons, List.all_nil, Bool.and_eq_true, Bool.or_eq_true,
    decide_eq_true_eq, Bool.and_true] at h
  simp only [isInert, isBlank, Bool.or_eq_false_iff, Bool.and_eq_false_iff, decide_eq_false_iff_not,
    beq_eq_false_iff_ne]
  omega

/-- The first run, which is that of the basic letters. -/
def basicRun : CaseRun := ⟨65, 90, 1, 32⟩

theorem lowerRuns_eq : lowerRuns = basicRun :: lowerRuns.tail := rfl

theorem image?_tail {r : CaseRun} (hr : r ∈ lowerRuns.tail) {n : Nat} (hn : n < 128) :
    r.image? n = none := by
  have hfirst : ∀ r ∈ lowerRuns.tail, 128 ≤ r.first := by decide +kernel
  have hr := hfirst r hr
  unfold CaseRun.image?
  rw [if_neg]
  omega

theorem lowerChar_basic : ∀ n < 128,
    (Char.ofNat n).toLower = Char.ofNat ((basicRun.image? n).getD n) := by decide +kernel

theorem lookup_lowerExpansions (n : Nat) :
    lowerExpansions.lookup n = if n = 304 then some [105, 775] else none := by
  rw [lowerExpansions, List.lookup_cons]
  by_cases hn : n = 304
  · rw [hn]
    rfl
  · rw [beq_eq_false_iff_ne.mpr hn, if_neg hn]
    rfl

/-- The basic letters are in the table too. -/
theorem lowerChar_eq (c : Char) : lowerChar c = mapCase lowerRuns lowerExpansions c := by
  unfold lowerChar
  split
  · rename_i hc
    have hlower := lowerChar_basic c.toNat hc
    have hother : lowerRuns.tail.findSome? (·.image? c.toNat) = none :=
      List.findSome?_eq_none_iff.mpr fun r hr => image?_tail hr hc
    rw [Char.ofNat_toNat] at hlower
    unfold mapCase
    rw [lowerRuns_eq, List.findSome?_cons, hother, lookup_lowerExpansions, if_neg (by omega), hlower]
    cases basicRun.image? c.toNat with
    | none => simp
    | some n => rfl
  · rfl

theorem lowerChar_of_uncased {c : Char} (hc : Uncased c) : lowerChar c = [c] := by
  rw [lowerChar_eq, mapCase, List.findSome?_eq_none_iff.mpr hc.1, hc.2]

theorem uncased_of_basic {c : Char} (hc : c.toNat < 65 ∨ 90 < c.toNat ∧ c.toNat < 128) :
    Uncased c := by
  constructor
  · intro r hr
    rw [lowerRuns_eq, List.mem_cons] at hr
    rcases hr with rfl | hr
    · exact if_neg (by simp only [basicRun]; omega)
    · exact image?_tail hr (by omega)
  · rw [lookup_lowerExpansions, if_neg (by omega)]

theorem Uncased.ne_sigma {c : Char} (hc : Uncased c) : c ≠ 'Σ' := by
  rintro rfl
  have hsigma : lowerRuns.any (fun r => (r.image? 931).isSome) = true := by decide +kernel
  obtain ⟨r, hr, hsome⟩ := List.any_eq_true.mp hsigma
  have hnone : r.image? 931 = none := hc.1 r hr
  rw [hnone] at hsome
  cases hsome

/-- A run leaves inert characters alone and maps to characters that no run maps. -/
theorem uncased_of_image {c : Char} {r : CaseRun} {m : Nat} (hr : r ∈ lowerRuns)
    (hm : r.image? c.toNat = some m) :
    isInert c = false ∧ Uncased (Char.ofNat m) ∧ isInert (Char.ofNat m) = false := by
  have hsound := List.all_eq_true.mp lowerRuns_sound r hr
  simp only [CaseRun.sound, Bool.and_eq_true, Bool.or_eq_true, decide_eq_true_eq] at hsound
  obtain ⟨⟨⟨⟨hclear, hclear'⟩, -⟩, hdotted⟩, hvalid⟩ := hsound
  obtain ⟨hfirst, hlast, -⟩ := CaseRun.image?_eq_some hm
  obtain ⟨himage, himage'⟩ := CaseRun.image_range hr hm
  have htoNat : (Char.ofNat m).toNat = m := by
    rw [Char.ofNat, dif_pos (by unfold Nat.isValidChar; omega)]
    rfl
  refine ⟨isInert_of_clear hclear hfirst hlast, ⟨fun q hq => ?_, ?_⟩, ?_⟩
  · rw [htoNat]
    exact CaseRun.image?_image hr hq hm
  · rw [htoNat, lookup_lowerExpansions, if_neg (by omega)]
  · exact isInert_of_clear hclear' (by omega) (by omega)

/-- What lowercase does to a character: nothing, or it puts others in its place to which it does
nothing. -/
theorem lowerChar_cases (c : Char) :
    (Uncased c ∧ lowerChar c = [c]) ∨
      (isInert c = false ∧ lowerChar c ≠ [] ∧
        ∀ d ∈ lowerChar c, Uncased d ∧ isInert d = false) := by
  rw [lowerChar_eq, mapCase]
  cases hrun : lowerRuns.findSome? (·.image? c.toNat) with
  | some m =>
    obtain ⟨r, hr, hm⟩ := List.exists_of_findSome?_eq_some hrun
    obtain ⟨hc, hd⟩ := uncased_of_image hr hm
    refine .inr ⟨hc, List.cons_ne_nil _ _, fun d hmem => ?_⟩
    rwa [List.mem_singleton.mp hmem]
  | none =>
    have hruns := List.findSome?_eq_none_iff.mp hrun
    rw [lookup_lowerExpansions]
    by_cases hc : c.toNat = 304
    · rw [if_pos hc]
      have hclear : clearOfInert 304 304 = true := by decide
      refine .inr ⟨isInert_of_clear hclear (by omega) (by omega), List.cons_ne_nil _ _, ?_⟩
      intro d hd
      simp only [List.map_cons, List.map_nil, List.mem_cons, List.not_mem_nil, or_false] at hd
      rcases hd with rfl | rfl
      · exact ⟨uncased_of_basic (by decide), by decide⟩
      · exact ⟨⟨by decide +kernel, by decide⟩, by decide⟩
    · rw [if_neg hc]
      exact .inl ⟨⟨hruns, by rw [lookup_lowerExpansions, if_neg hc]⟩, rfl⟩

/-! ## Texts -/

/-- The second text is the first one without some of its blanks, and with other characters in the
place of some that are not inert. -/
inductive Respelled : List Char → List Char → Prop
  | nil : Respelled [] []
  | kept (c : Char) {cs ds : List Char} (h : Respelled cs ds) : Respelled (c :: cs) (c :: ds)
  | dropped {c : Char} {cs ds : List Char} (hc : isBlank c = true) (h : Respelled cs ds) :
    Respelled (c :: cs) ds
  | replaced {c : Char} {w cs ds : List Char} (hc : isInert c = false) (hne : w ≠ [])
    (hw : ∀ d ∈ w, isInert d = false) (h : Respelled cs ds) : Respelled (c :: cs) (w ++ ds)

/-- The form of a sigma depends on its neighbours, but both forms are lowercase. -/
theorem lowerFrom_cons (before : List Char) (c : Char) (cs : List Char) :
    ∃ w, lowerFrom before (c :: cs) = w ++ lowerFrom (c :: before) cs ∧
      ((Uncased c ∧ w = [c]) ∨ (isInert c = false ∧ w ≠ [] ∧
        ∀ d ∈ w, Uncased d ∧ isInert d = false)) := by
  rw [lowerFrom]
  refine ⟨_, rfl, ?_⟩
  by_cases hc : c = 'Σ'
  · have hboth : ∀ d, d = 'ς' ∨ d = 'σ' → Uncased d ∧ isInert d = false := by
      rintro d (rfl | rfl)
      · exact ⟨⟨by decide +kernel, by decide⟩, by decide⟩
      · exact ⟨⟨by decide +kernel, by decide⟩, by decide⟩
    rw [if_pos hc, hc]
    refine .inr ⟨by decide, List.cons_ne_nil _ _, fun d hd => hboth d ?_⟩
    rw [List.mem_singleton.mp hd]
    split
    · exact .inl rfl
    · exact .inr rfl
  · rw [if_neg hc]
    exact lowerChar_cases c

theorem uncased_of_mem_lower {cs : List Char} : ∀ d ∈ lower cs, Uncased d := by
  have hfrom : ∀ before, ∀ d ∈ lowerFrom before cs, Uncased d := by
    induction cs with
    | nil => simp [lowerFrom]
    | cons c cs ih =>
      intro before d hd
      obtain ⟨w, hlower, hw⟩ := lowerFrom_cons before c cs
      rw [hlower, List.mem_append] at hd
      rcases hd with hd | hd
      · rcases hw with ⟨hc, rfl⟩ | ⟨-, -, hw⟩
        · rwa [List.mem_singleton.mp hd]
        · exact (hw d hd).1
      · exact ih (c :: before) d hd
  exact hfrom []

/-- Where there is nothing to change, lowercase changes nothing. -/
theorem lower_of_uncased {cs : List Char} (h : ∀ c ∈ cs, Uncased c) : lower cs = cs := by
  have hfrom : ∀ before, lowerFrom before cs = cs := by
    induction cs with
    | nil => exact fun _ => rfl
    | cons c cs ih =>
      intro before
      have hc := h c List.mem_cons_self
      rw [lowerFrom, if_neg hc.ne_sigma, lowerChar_of_uncased hc,
        ih fun d hd => h d (List.mem_cons_of_mem c hd)]
      rfl
  exact hfrom []

theorem respelled_lower (cs : List Char) : Respelled cs (lower cs) := by
  have hfrom : ∀ before, Respelled cs (lowerFrom before cs) := by
    induction cs with
    | nil => exact fun _ => .nil
    | cons c cs ih =>
      intro before
      obtain ⟨w, hlower, hw⟩ := lowerFrom_cons before c cs
      rw [hlower]
      rcases hw with ⟨-, rfl⟩ | ⟨hc, hne, hw⟩
      · exact .kept c (ih _)
      · exact .replaced hc hne (fun d hd => (hw d hd).2) (ih _)
  exact hfrom []

theorem not_blank_of_not_inert {c : Char} (hc : isInert c = false) : isBlank c = false :=
  (Bool.or_eq_false_iff.mp hc).2

namespace Respelled

variable {b cs ds : List Char}

theorem refl (cs : List Char) : Respelled cs cs := by
  induction cs with
  | nil => exact .nil
  | cons c cs ih => exact .kept c ih

theorem blank_append (hb : ∀ c ∈ b, isBlank c = true) (h : Respelled cs ds) :
    Respelled (b ++ cs) ds := by
  induction b with
  | nil => exact h
  | cons c b ih =>
    exact .dropped (hb c List.mem_cons_self) (ih fun d hd => hb d (List.mem_cons_of_mem c hd))

theorem append_blank (cs : List Char) (hb : ∀ c ∈ b, isBlank c = true) :
    Respelled (cs ++ b) cs := by
  induction cs with
  | nil => simpa using blank_append hb .nil
  | cons c cs ih => exact .kept c ih

theorem forall_blank_iff (h : Respelled cs ds) :
    (∀ c ∈ cs, isBlank c = true) ↔ ∀ d ∈ ds, isBlank d = true := by
  induction h with
  | nil => exact Iff.rfl
  | kept c _ ih => rw [List.forall_mem_cons, List.forall_mem_cons, ih]
  | dropped hc _ ih => rw [List.forall_mem_cons, ih, and_iff_right hc]
  | @replaced c w cs ds hc hne hw _ _ =>
    obtain ⟨d, w, rfl⟩ := List.exists_cons_of_ne_nil hne
    have hd := not_blank_of_not_inert (hw d List.mem_cons_self)
    have hc := not_blank_of_not_inert hc
    refine iff_of_false (fun hall => ?_) fun hall => ?_
    · exact absurd (hall c List.mem_cons_self) (by simp [hc])
    · exact absurd (hall d List.mem_cons_self) (by simp [hd])

end Respelled

theorem respelled_strip (cs : List Char) : Respelled cs (strip cs) := by
  have hright : ∀ l, ∃ b, (∀ c ∈ b, isBlank c = true) ∧ l = stripRight l ++ b := by
    intro l
    refine ⟨(l.reverse.takeWhile isBlank).reverse, fun c hc => ?_, ?_⟩
    · exact List.all_eq_true.mp (List.all_takeWhile) c (List.mem_reverse.mp hc)
    · rw [stripRight, ← List.reverse_append, List.takeWhile_append_dropWhile, List.reverse_reverse]
  obtain ⟨b, hb, hstrip⟩ := hright (stripLeft cs)
  have hleft : cs = cs.takeWhile isBlank ++ stripLeft cs :=
    List.takeWhile_append_dropWhile.symm
  rw [hstrip] at hleft
  have hrespelled := Respelled.blank_append
    (List.all_eq_true.mp (List.all_takeWhile (l := cs))) (Respelled.append_blank (strip cs) hb)
  rwa [strip, ← hleft] at hrespelled

end Text
end SchemaLineage
