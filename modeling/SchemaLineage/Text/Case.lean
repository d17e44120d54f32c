import SchemaLineage.Text.CaseTable
/-
Letter case: lowercase, uppercase, and the case folding under which names are compared.
-/

namespace SchemaLineage
namespace Text

namespace CaseRun

/-- The image of a code point, if the run covers it. -/
def image? (r : CaseRun) (n : Nat) : Option Nat :=
  if r.first ≤ n ∧ n ≤ r.last ∧ (n - r.first) % r.step = 0 then some (n + r.shift).toNat else none

end CaseRun

/-- A character's image under runs and expansions; one that neither mentions maps to itself. -/
def mapCase (runs : List CaseRun) (expansions : List (Nat × List Nat)) (c : Char) : List Char :=
  match runs.findSome? (·.image? c.toNat) with
  | some n => [Char.ofNat n]
  | none =>
    match expansions.lookup c.toNat with
    | some ns => ns.map Char.ofNat
    | none => [c]

def lowerChar (c : Char) : List Char :=
  if c.toNat < 128 then [c.toLower] else mapCase lowerRuns lowerExpansions c

def upperChar (c : Char) : List Char :=
  if c.toNat < 128 then [c.toUpper] else mapCase upperRuns upperExpansions c

def foldChar (c : Char) : List Char :=
  if c.toNat < 128 then [c.toLower] else mapCase foldRuns foldExpansions c

def inRanges (rs : List (Nat × Nat)) (c : Char) : Bool :=
  rs.any fun r => r.1 ≤ c.toNat && c.toNat ≤ r.2

/-- Whether the nearest character that is not passed over has case. -/
def nearCased (cs : List Char) : Bool :=
  match cs.dropWhile (inRanges caselessRanges) with
  | [] => false
  | c :: _ => inRanges casedRanges c

/-- Lowercase.  A capital sigma becomes the final form when a cased letter stands before it and none
after it; `before` holds what precedes, nearest first. -/
def lowerFrom (before : List Char) : List Char → List Char
  | [] => []
  | c :: cs =>
    let image :=
      if c = 'Σ' then [if nearCased before && !nearCased cs then 'ς' else 'σ'] else lowerChar c
    image ++ lowerFrom (c :: before) cs

def lower (cs : List Char) : List Char := lowerFrom [] cs

def upper (cs : List Char) : List Char := cs.flatMap upperChar

def fold (cs : List Char) : List Char := cs.flatMap foldChar

/-- Two spellings that differ in letter case only. -/
def sameFolded (a b : String) : Bool := fold a.toList == fold b.toList

@[simp] theorem sameFolded_refl (a : String) : sameFolded a a = true := by simp [sameFolded]

theorem sameFolded_comm (a b : String) : sameFolded a b = sameFolded b a := by
  simp [sameFolded, Bool.beq_comm]

theorem sameFolded_trans {a b c : String} (hab : sameFolded a b = true)
    (hbc : sameFolded b c = true) : sameFolded a c = true := by
  simp only [sameFolded, beq_iff_eq] at hab hbc ⊢
  exact hab.trans hbc

theorem foldExpansions_nonempty : ∀ p ∈ foldExpansions, p.2 ≠ [] := by decide

theorem foldChar_ne_nil (c : Char) : foldChar c ≠ [] := by
  unfold foldChar mapCase
  split
  · exact List.cons_ne_nil _ _
  · split
    · exact List.cons_ne_nil _ _
    · split
      · rename_i ns hns
        obtain ⟨l, r, hsplit, -⟩ := List.lookup_eq_some_iff.mp hns
        have hne : ns ≠ [] := by
          refine foldExpansions_nonempty (c.toNat, ns) ?_
          rw [hsplit]
          exact List.mem_append_right _ List.mem_cons_self
        exact fun h => hne (List.map_eq_nil_iff.mp h)
      · exact List.cons_ne_nil _ _

/-- No letter disappears when case is disregarded. -/
theorem sameFolded_empty {a : String} : sameFolded "" a = true ↔ a = "" := by
  constructor
  · intro h
    have hfold : fold a.toList = [] := (beq_iff_eq.mp h).symm
    cases hcs : a.toList with
    | nil => exact String.ext hcs
    | cons c cs =>
      rw [hcs, fold, List.flatMap_cons, List.append_eq_nil_iff] at hfold
      exact absurd hfold.1 (foldChar_ne_nil c)
  · rintro rfl
    exact sameFolded_refl ""

def lowered (s : String) : String := String.ofList (lower s.toList)

def uppered (s : String) : String := String.ofList (upper s.toList)

end Text
end SchemaLineage
