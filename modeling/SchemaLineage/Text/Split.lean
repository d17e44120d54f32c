/-
Blank and line-break characters, and the ways a text is cut at them: trimming, words, and one blank
between the words.  The main statement, `splitWhen_flatten`, says that cutting loses only the
separators.
-/

namespace SchemaLineage
namespace Text

/-- Blank characters separate words and are what trimming removes: the Unicode separators with the
tabulation, line and information separator controls. -/
def isBlank (c : Char) : Bool :=
  let n := c.toNat
  (9 ≤ n && n ≤ 13) || (28 ≤ n && n ≤ 32) || n == 0x85 || n == 0xA0 || n == 0x1680 ||
    (0x2000 ≤ n && n ≤ 0x200A) || n == 0x2028 || n == 0x2029 || n == 0x202F || n == 0x205F ||
    n == 0x3000

def isLineBreak (c : Char) : Bool :=
  let n := c.toNat
  (10 ≤ n && n ≤ 13) || (28 ≤ n && n ≤ 30) || n == 0x85 || n == 0x2028 || n == 0x2029

/-- A line break is blank, so cutting a text into words also cuts it at its line breaks. -/
theorem isBlank_of_isLineBreak {c : Char} (h : isLineBreak c = true) : isBlank c = true := by
  simp only [isLineBreak, isBlank, Bool.or_eq_true, Bool.and_eq_true, decide_eq_true_eq,
    beq_iff_eq] at h ⊢
  omega

/-- The pieces between the elements that satisfy `p`; there is always at least one. -/
def splitWhen {α : Type} (p : α → Bool) : List α → List (List α)
  | [] => [[]]
  | c :: cs =>
    if p c then [] :: splitWhen p cs
    else
      match splitWhen p cs with
      | [] => [[c]]
      | w :: ws => (c :: w) :: ws

theorem splitWhen_ne_nil {α : Type} (p : α → Bool) (cs : List α) : splitWhen p cs ≠ [] := by
  cases cs with
  | nil => simp [splitWhen]
  | cons c cs =>
    unfold splitWhen
    split
    · simp
    · split <;> simp

/-- Cutting loses the separators and nothing else. -/
theorem splitWhen_flatten {α : Type} (p : α → Bool) (cs : List α) :
    (splitWhen p cs).flatten = cs.filter (fun c => !p c) := by
  induction cs with
  | nil => rfl
  | cons c cs ih =>
    unfold splitWhen
    cases h : p c with
    | true => simp [h, ih]
    | false =>
      cases hs : splitWhen p cs with
      | nil => exact absurd hs (splitWhen_ne_nil p cs)
      | cons w ws => simp [h, ← ih, hs]

/-- The maximal runs of characters that are not blank. -/
def words (cs : List Char) : List (List Char) :=
  (splitWhen isBlank cs).filter (fun w => !w.isEmpty)

def lines (cs : List Char) : List (List Char) := splitWhen isLineBreak cs

/-- One blank between the words and none around them. -/
def collapse (cs : List Char) : List Char := List.intercalate [' '] (words cs)

def stripLeft (cs : List Char) : List Char := cs.dropWhile isBlank

def stripRight (cs : List Char) : List Char := (cs.reverse.dropWhile isBlank).reverse

def strip (cs : List Char) : List Char := stripRight (stripLeft cs)

def collapsed (s : String) : String := String.ofList (collapse s.toList)

end Text
end SchemaLineage
