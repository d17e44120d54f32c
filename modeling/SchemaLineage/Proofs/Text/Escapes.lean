import Mathlib.Data.List.TakeWhile
import SchemaLineage.Proofs.Outcome
import SchemaLineage.Service.Target
import SchemaLineage.Text.Quoted
/-
Texts written with percent escapes, and read back.

An escape stands for a byte, and a character for up to four of them.  There are many ways to write a
text: whether a character is escaped is free but for a few, and so is the case of the digits
(`Escaped`).  All of them are read back to the text (`unescaped_of_escaped`), because bytes that
encode a character are decoded to it whatever comes behind them (`decodeFrom_encodeChar`).
-/

namespace SchemaLineage
namespace Text

/-! ## Characters as bytes -/

section

variable {b value low high : Nat} {bs : List Nat}

theorem decodeFrom_of_inr {p : Pending} (h : beginChar b = .inr p) :
    decodeFrom none (b :: bs) = decodeFrom (some p) bs := by
  rw [decodeFrom, h]

theorem decodeFrom_more {missing : Nat} (hlow : low ≤ b) (hhigh : b ≤ high) :
    decodeFrom (some ⟨value, missing + 2, low, high⟩) (b :: bs) =
      decodeFrom (some ⟨value * 64 + (b - 0x80), missing + 1, 0x80, 0xBF⟩) bs := by
  rw [decodeFrom, if_pos ⟨hlow, hhigh⟩, if_neg (by dsimp only; omega)]
  rfl

theorem decodeFrom_last (hlow : low ≤ b) (hhigh : b ≤ high) :
    decodeFrom (some ⟨value, 1, low, high⟩) (b :: bs) =
      Char.ofNat (value * 64 + (b - 0x80)) :: decodeFrom none bs := by
  rw [decodeFrom, if_pos ⟨hlow, hhigh⟩, if_pos (Nat.le_refl 1)]

theorem beginChar_two (hlow : 0xC2 ≤ b) (hhigh : b < 0xE0) :
    beginChar b = .inr ⟨b - 0xC0, 1, 0x80, 0xBF⟩ := by
  unfold beginChar
  rw [if_neg (by omega), if_neg (by omega), if_pos hhigh]

/-- The bounds on the second byte do not shut out one that belongs to a character. -/
theorem beginChar_three {c : Nat} (hlow : 0xE0 ≤ b) (hhigh : b < 0xF0)
    (hc : 0x80 ≤ c ∧ c ≤ 0xBF) (hlong : b = 0xE0 → 0xA0 ≤ c)
    (hsurrogate : b = 0xED → c ≤ 0x9F) :
    ∃ low high, beginChar b = .inr ⟨b - 0xE0, 2, low, high⟩ ∧ low ≤ c ∧ c ≤ high := by
  unfold beginChar
  rw [if_neg (by omega), if_neg (by omega), if_neg (by omega)]
  by_cases hfirst : b = 0xE0
  · rw [if_pos hfirst, hfirst]
    exact ⟨_, _, rfl, hlong hfirst, hc.2⟩
  by_cases hother : b = 0xED
  · rw [if_neg hfirst, if_pos hother, hother]
    exact ⟨_, _, rfl, hc.1, hsurrogate hother⟩
  · rw [if_neg hfirst, if_neg hother, if_pos hhigh]
    exact ⟨_, _, rfl, hc⟩

theorem beginChar_four {c : Nat} (hlow : 0xF0 ≤ b) (hhigh : b ≤ 0xF4)
    (hc : 0x80 ≤ c ∧ c ≤ 0xBF) (hlong : b = 0xF0 → 0x90 ≤ c)
    (hlast : b = 0xF4 → c ≤ 0x8F) :
    ∃ low high, beginChar b = .inr ⟨b - 0xF0, 3, low, high⟩ ∧ low ≤ c ∧ c ≤ high := by
  unfold beginChar
  rw [if_neg (by omega), if_neg (by omega), if_neg (by omega), if_neg (by omega),
    if_neg (by omega), if_neg (by omega)]
  by_cases hfirst : b = 0xF0
  · rw [if_pos hfirst, hfirst]
    exact ⟨_, _, rfl, hlong hfirst, hc.2⟩
  by_cases hother : b = 0xF4
  · rw [if_neg hfirst, if_neg (by omega), if_pos hother, hother]
    exact ⟨_, _, rfl, hc.1, hlast hother⟩
  · rw [if_neg hfirst, if_pos (by omega)]
    exact ⟨_, _, rfl, hc⟩

end

theorem toNat_valid (c : Char) : c.toNat < 0xD800 ∨ 0xDFFF < c.toNat ∧ c.toNat < 0x110000 := c.valid

/-- A character is read from its bytes, whatever follows. -/
theorem decodeFrom_encodeChar (c : Char) (bs : List Nat) :
    decodeFrom none (encodeChar c ++ bs) = c :: decodeFrom none bs := by
  have hvalid := toNat_valid c
  have hc : Char.ofNat c.toNat = c := Char.ofNat_toNat c
  unfold encodeChar
  generalize c.toNat = n at hvalid hc
  dsimp only
  by_cases hone : n < 0x80
  · rw [if_pos hone, List.singleton_append, decodeFrom, beginChar, if_pos hone]
    rw [hc]
  by_cases htwo : n < 0x800
  · rw [if_neg hone, if_pos htwo, List.cons_append, List.singleton_append,
      decodeFrom_of_inr (beginChar_two (by omega) (by omega)),
      decodeFrom_last (by omega) (by omega)]
    have hn : (0xC0 + n / 64 - 0xC0) * 64 + (0x80 + n % 64 - 0x80) = n := by omega
    rw [hn, hc]
  by_cases hthree : n < 0x10000
  · rw [if_neg hone, if_neg htwo, if_pos hthree]
    obtain ⟨low, high, hbegin, hlow, hhigh⟩ :=
      beginChar_three (b := 0xE0 + n / 4096) (c := 0x80 + n / 64 % 64) (by omega) (by omega)
        (by omega) (by omega) (by omega)
    rw [List.cons_append, List.cons_append, List.singleton_append, decodeFrom_of_inr hbegin,
      decodeFrom_more hlow hhigh, decodeFrom_last (by omega) (by omega)]
    have hn : ((0xE0 + n / 4096 - 0xE0) * 64 + (0x80 + n / 64 % 64 - 0x80)) * 64 +
        (0x80 + n % 64 - 0x80) = n := by omega
    rw [hn, hc]
  · rw [if_neg hone, if_neg htwo, if_neg hthree]
    obtain ⟨low, high, hbegin, hlow, hhigh⟩ :=
      beginChar_four (b := 0xF0 + n / 262144) (c := 0x80 + n / 4096 % 64) (by omega) (by omega)
        (by omega) (by omega) (by omega)
    rw [List.cons_append, List.cons_append, List.cons_append, List.singleton_append,
      decodeFrom_of_inr hbegin, decodeFrom_more hlow hhigh,
      decodeFrom_more (by omega) (by omega), decodeFrom_last (by omega) (by omega)]
    have hn : (((0xF0 + n / 262144 - 0xF0) * 64 + (0x80 + n / 4096 % 64 - 0x80)) * 64 +
        (0x80 + n / 64 % 64 - 0x80)) * 64 + (0x80 + n % 64 - 0x80) = n := by omega
    rw [hn, hc]

theorem decodeBytes_encodeBytes (cs : List Char) : decodeBytes (encodeBytes cs) = cs := by
  induction cs with
  | nil => rfl
  | cons c cs ih =>
    show decodeFrom none (encodeChar c ++ encodeBytes cs) = c :: cs
    rw [decodeFrom_encodeChar]
    exact congrArg (c :: ·) ih

/-! ## Bytes as escapes -/

/-- A byte as an escape, with digits in either case. -/
def EscapeOf (b : Nat) (es : List Char) : Prop :=
  ∃ x y m n, es = ['%', x, y] ∧ Json.hexValue? x = some m ∧ Json.hexValue? y = some n ∧
    b = 16 * m + n

/-- A character that may stand as it is in the path of a target. -/
def IsPlain (c : Char) : Prop := c ≠ '%' ∧ c ≠ '?' ∧ c ≠ '#'

instance : DecidablePred IsPlain := fun _ => inferInstanceAs (Decidable (_ ∧ _))

/-- The characters of a text, each as it stands or as the escapes of its bytes. -/
inductive Escaped : List Char → List Char → Prop
  | nil : Escaped [] []
  | plain {c : Char} {cs es : List Char} (hc : IsPlain c) (h : Escaped cs es) :
    Escaped (c :: cs) (c :: es)
  | bytes {c : Char} {cs es : List Char} {escapes : List (List Char)}
    (hc : List.Forall₂ EscapeOf (encodeChar c) escapes) (h : Escaped cs es) :
    Escaped (c :: cs) (escapes.flatten ++ es)

theorem unescapedBytes_plain {c : Char} (hc : c ≠ '%') (es : List Char) :
    unescapedBytes (c :: es) = encodeChar c ++ unescapedBytes es := by
  rw [unescapedBytes]
  intro a b cs hcs
  exact absurd hcs hc

theorem unescapedBytes_escape {b : Nat} {e : List Char} (h : EscapeOf b e) (es : List Char) :
    unescapedBytes (e ++ es) = b :: unescapedBytes es := by
  obtain ⟨x, y, m, n, rfl, hx, hy, rfl⟩ := h
  show unescapedBytes ('%' :: x :: y :: es) = _
  rw [unescapedBytes, hx, hy]

theorem unescapedBytes_escapes {bs : List Nat} {escapes : List (List Char)}
    (h : List.Forall₂ EscapeOf bs escapes) (es : List Char) :
    unescapedBytes (escapes.flatten ++ es) = bs ++ unescapedBytes es := by
  induction h with
  | nil => rfl
  | cons hb _ ih =>
    rw [List.flatten_cons, List.append_assoc, unescapedBytes_escape hb, ih, List.cons_append]

theorem unescaped_of_escaped {cs es : List Char} (h : Escaped cs es) : unescaped es = cs := by
  have hbytes : unescapedBytes es = encodeBytes cs := by
    induction h with
    | nil => rfl
    | plain hc _ ih =>
      rw [unescapedBytes_plain hc.1, ih]
      rfl
    | bytes hc _ ih =>
      rw [unescapedBytes_escapes hc, ih]
      rfl
  rw [unescaped, hbytes, decodeBytes_encodeBytes]

/-! ## Texts in the path of a target -/

section

variable {cs cs' es es' : List Char}

theorem Escaped.append (h : Escaped cs es) (h' : Escaped cs' es') :
    Escaped (cs ++ cs') (es ++ es') := by
  induction h with
  | nil => exact h'
  | plain hc _ ih => exact .plain hc ih
  | bytes hc _ ih =>
    rw [List.append_assoc]
    exact .bytes hc ih

theorem escaped_self (h : (cs.all fun c => IsPlain c) = true) : Escaped cs cs := by
  induction cs with
  | nil => exact .nil
  | cons c cs ih =>
    rw [List.all_cons, Bool.and_eq_true] at h
    exact .plain (of_decide_eq_true h.1) (ih h.2)

theorem mem_of_escapeOf {b : Nat} {e : List Char} (h : EscapeOf b e) :
    ∀ c ∈ e, c ≠ '?' ∧ c ≠ '#' := by
  obtain ⟨x, y, m, n, rfl, hx, hy, -⟩ := h
  have hdigit : ∀ d k, Json.hexValue? d = some k → d ≠ '?' ∧ d ≠ '#' := by
    intro d k hd
    constructor
    · rintro rfl
      cases hd
    · rintro rfl
      cases hd
  intro c hc
  rw [List.mem_cons, List.mem_pair] at hc
  rcases hc with rfl | rfl | rfl
  · decide
  · exact hdigit c m hx
  · exact hdigit c n hy

/-- What is written ends neither the path nor the target. -/
theorem Escaped.mem (h : Escaped cs es) : ∀ c ∈ es, c ≠ '?' ∧ c ≠ '#' := by
  induction h with
  | nil => exact fun c hc => absurd hc List.not_mem_nil
  | plain hplain _ ih =>
    intro c hc
    rcases List.mem_cons.mp hc with rfl | hc
    · exact hplain.2
    · exact ih c hc
  | bytes hbytes _ ih =>
    intro c hc
    rcases List.mem_append.mp hc with hc | hc
    · obtain ⟨e, he, hce⟩ := List.mem_flatten.mp hc
      obtain ⟨b, -, hb⟩ := exists_of_mem_right hbytes he
      exact mem_of_escapeOf hb c hce
    · exact ih c hc

/-- A target that is nothing but a path is read as its text. -/
theorem ofText_of_escaped (h : Escaped cs es) : Target.ofText es = ⟨cs, []⟩ := by
  have hsent : es.takeWhile (· != '#') = es :=
    List.takeWhile_eq_self_iff.mpr fun c hc => by simpa using (h.mem c hc).2
  have hpath : es.takeWhile (· != '?') = es :=
    List.takeWhile_eq_self_iff.mpr fun c hc => by simpa using (h.mem c hc).1
  have hquery : es.dropWhile (· != '?') = [] :=
    List.dropWhile_eq_nil_iff.mpr fun c hc => by simpa using (h.mem c hc).1
  unfold Target.ofText
  rw [hsent]
  dsimp only
  rw [hpath, hquery, unescaped_of_escaped h]
  rfl

end

/-- Letters, digits and the marks that stand for themselves everywhere. -/
def isUnreserved (c : Char) : Bool := c.isAlphanum || c == '-' || c == '.' || c == '_' || c == '~'

def escapeOf (b : Nat) : List Char := '%' :: hexDigits 2 b

/-- A text in which everything is escaped that may have a meaning of its own. -/
def percentEncoded (cs : List Char) : List Char :=
  cs.flatMap fun c => if isUnreserved c then [c] else (encodeChar c).flatMap escapeOf

theorem escapeOf_spec {b : Nat} (hb : b < 256) : EscapeOf b (escapeOf b) := by
  have hdigit : ∀ n < 16, Json.hexValue? (Nat.digitChar n) = some n := by decide
  refine ⟨_, _, b / 16 % 16, b % 16, rfl, hdigit _ (by omega), hdigit _ (by omega), ?_⟩
  omega

theorem lt_of_mem_encodeChar {c : Char} {b : Nat} (h : b ∈ encodeChar c) : b < 256 := by
  have hvalid := toNat_valid c
  unfold encodeChar at h
  dsimp only at h
  split at h
  · rw [List.mem_singleton.mp h]
    omega
  split at h
  · rcases List.mem_pair.mp h with rfl | rfl <;> omega
  split at h
  · rw [List.mem_cons, List.mem_pair] at h
    rcases h with rfl | rfl | rfl <;> omega
  · rw [List.mem_cons, List.mem_cons, List.mem_pair] at h
    rcases h with rfl | rfl | rfl | rfl <;> omega

theorem escaped_percentEncoded (cs : List Char) : Escaped cs (percentEncoded cs) := by
  induction cs with
  | nil => exact .nil
  | cons c cs ih =>
    rw [percentEncoded, List.flatMap_cons]
    by_cases hc : isUnreserved c = true
    · rw [if_pos hc]
      refine .plain ⟨?_, ?_, ?_⟩ ih <;> rintro rfl <;> exact absurd hc (by decide)
    · rw [if_neg hc, List.flatMap_def]
      refine .bytes (List.forall₂_map_right_iff.mpr (List.forall₂_same.mpr fun b hb => ?_)) ih
      exact escapeOf_spec (lt_of_mem_encodeChar hb)

end Text
end SchemaLineage
