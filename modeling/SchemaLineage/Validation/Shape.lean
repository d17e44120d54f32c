import SchemaLineage.Json.Value
import SchemaLineage.Text.Split
import SchemaLineage.Text.Case
import SchemaLineage.Validation.Fault
/-
Checks of JSON values: texts, integers, truth values, lists, maps and records.

Integers and truth values are also read from other values that plainly stand for them, such as the
text `"12"` or the number `1.0`.
-/

namespace SchemaLineage

/-- A check of a JSON value. -/
abbrev Shape (α : Type) := Json → Checked α

namespace Shape

open Text

variable {α : Type}

def text : Shape String
  | .str s => .ok s
  | _ => .fail .notText

/-- White space around a number; the information separators are not part of it. -/
def isPadding (c : Char) : Bool := isBlank c && !(28 ≤ c.toNat && c.toNat ≤ 31)

def unpadded (cs : List Char) : List Char :=
  ((cs.dropWhile isPadding).reverse.dropWhile isPadding).reverse

/-- Without a fraction that holds zeros only. -/
def withoutZeroFraction (cs : List Char) : List Char :=
  match cs.dropWhile (· != '.') with
  | [] => cs
  | _ :: fraction => if fraction.all (· == '0') then cs.takeWhile (· != '.') else cs

/-- Digits, with single low lines allowed between them. -/
def isDigitGroups : List Char → Bool
  | [] => false
  | [c] => c.isDigit
  | c :: '_' :: d :: cs => c.isDigit && isDigitGroups (d :: cs)
  | c :: d :: cs => c.isDigit && isDigitGroups (d :: cs)

def natOfDigits (cs : List Char) : Nat :=
  (cs.filter (·.isDigit)).foldl (fun n c => n * 10 + (c.toNat - 48)) 0

/-- The integer that a text writes: a sign, digits in groups, and no fraction but zeros. -/
def integerOfText? (cs : List Char) : Option Int :=
  let (negative, body) :=
    match unpadded cs with
    | '-' :: r => (true, r)
    | '+' :: r => (false, r)
    | r => (false, r)
  let digits := withoutZeroFraction body
  if isDigitGroups digits then
    some (if negative then -(natOfDigits digits : Int) else natOfDigits digits)
  else none

/-- The longest text that is read as an integer. -/
def integerTextLimit : Nat := 4300

/-- Numbers with a point are read as integers of 64 bits. -/
def wordLimit : Int := 0x8000000000000000

def integer : Shape Int
  | .int n => .ok n
  | .bool b => .ok (if b then 1 else 0)
  | .float x =>
    match x with
    | .finite .. =>
      match x.toInt? with
      | some n => if -wordLimit < n ∧ n < wordLimit then .ok n else .fail .tooManyDigits
      | none => .fail .fractional
    | _ => .fail .notFinite
  | .str s =>
    if integerTextLimit < (unpadded s.toList).length then .fail .tooManyDigits
    else
      match integerOfText? s.toList with
      | some n => .ok n
      | none => .fail .notIntegerText
  | _ => .fail .notInteger

def truthWords : List (String × Bool) :=
  [("0", false), ("f", false), ("n", false), ("no", false), ("off", false), ("false", false),
   ("1", true), ("t", true), ("y", true), ("on", true), ("yes", true), ("true", true)]

def truthOfText? (s : String) : Option Bool := truthWords.lookup s.toLower

/-- Zero and one stand for the truth values, and so do the usual words in any case. -/
def truth : Shape Bool
  | .bool b => .ok b
  | .int n =>
    if n = 0 then .ok false
    else if n = 1 then .ok true
    else if n.natAbs < Nat.pow 2 1024 then .fail .notTruthText
    else .fail .notTruthValue
  | .float x =>
    match x.toInt? with
    | some 0 => .ok false
    | some 1 => .ok true
    | some _ => .fail .notTruthText
    | none => .fail .notTruthValue
  | .str s =>
    match truthOfText? s with
    | some b => .ok b
    | none => .fail .notTruthText
  | _ => .fail .notTruthValue

/-- One of the listed words, standing for a value. -/
def choice (choices : List (String × α)) : Shape α := fun v =>
  match v.string?.bind fun s => choices.lookup s with
  | some a => .ok a
  | none => .fail (.notListed (choices.map (·.1)))

def nullable (shape : Shape α) : Shape (Option α)
  | .null => .ok none
  | v => (shape v).map some

/-- The items of a list with their positions, counted from `n`. -/
def itemsFrom (shape : Shape α) : Nat → List Json → List (Checked α)
  | _, [] => []
  | n, v :: vs => (shape v).under (.index n) :: itemsFrom shape (n + 1) vs

def list (shape : Shape α) : Shape (List α)
  | .arr vs => .ofList (itemsFrom shape 0 vs)
  | _ => .fail .notList

def map (shape : Shape α) : Shape (List (String × α))
  | .obj ms => .ofList (ms.map fun m => ((shape m.2).map fun a => (m.1, a)).under (.field m.1))
  | _ => .fail .notMap

/-- The members of an object, which stands for a value of the named type. -/
def record (name : String) (fields : List (String × Json) → Checked α) : Shape α
  | .obj ms => fields ms
  | _ => .fail (.notRecord name)

/-- The members of an object; nothing else has fields. -/
def fields (members : List (String × Json) → Checked α) : Shape α
  | .obj ms => members ms
  | _ => .fail .noFields

/-- A field that has to be there. -/
def required (name : String) (shape : Shape α) (ms : List (String × Json)) : Checked α :=
  (match ms.lookup name with
   | some v => shape v
   | none => .fail .missing).under (.field name)

/-- A field that has a value of its own when it is left out. -/
def withDefault (name : String) (value : α) (shape : Shape α) (ms : List (String × Json)) :
    Checked α :=
  match ms.lookup name with
  | some v => (shape v).under (.field name)
  | none => .ok value

theorem itemsFrom_map_ok (shape : Shape α) (toJson : α → Json) (n : Nat) (as : List α)
    (h : ∀ a ∈ as, shape (toJson a) = .ok a) :
    itemsFrom shape n (as.map toJson) = as.map .ok := by
  induction as generalizing n with
  | nil => rfl
  | cons a as ih =>
    simp only [List.map_cons, itemsFrom, h a List.mem_cons_self, Checked.under_ok]
    rw [ih (n + 1) fun b hb => h b (List.mem_cons_of_mem _ hb)]

/-- A list whose items read back reads back. -/
theorem list_map_ok (shape : Shape α) (toJson : α → Json) (as : List α)
    (h : ∀ a ∈ as, shape (toJson a) = .ok a) : list shape (.arr (as.map toJson)) = .ok as := by
  simp only [list, Checked.ofList_ok_iff]
  exact itemsFrom_map_ok shape toJson 0 as h

theorem nullable_text (s : Option String) : nullable text (Json.text? s) = .ok s := by
  cases s <;> rfl

end Shape
end SchemaLineage
