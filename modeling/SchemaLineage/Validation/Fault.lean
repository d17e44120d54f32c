/-
Faults found in a value that should have a given shape, and checks that report all of them.

A check is not a monad: the second of two checks runs whatever the first one found, and the faults
are listed in the order of the checks (`ofList_ok_iff` says that a list passes only as a whole).
-/

namespace SchemaLineage

/-- A step from a value into one of its parts. -/
inductive Place where
  | field (name : String)
  | index (position : Nat)
  deriving DecidableEq, Repr

/-- Why a value does not have the shape that is asked for. -/
inductive Cause where
  | missing
  | notText
  | notInteger
  | notIntegerText
  | fractional
  | notFinite
  | tooManyDigits
  | notNumberText
  | notTruthValue
  | notTruthText
  | notListed (choices : List String)
  | notList
  | notMap
  /-- Neither an object nor a value of the named type. -/
  | notRecord (name : String)
  /-- Nothing that fields could be read from. -/
  | noFields
  | malformedJson
  deriving DecidableEq, Repr

namespace Cause

/-- The word by which programs tell causes apart. -/
def kind : Cause → String
  | missing => "missing"
  | notText => "string_type"
  | notInteger => "int_type"
  | notIntegerText => "int_parsing"
  | fractional => "int_from_float"
  | notFinite => "finite_number"
  | tooManyDigits => "int_parsing_size"
  | notNumberText => "float_parsing"
  | notTruthValue => "bool_type"
  | notTruthText => "bool_parsing"
  | notListed _ => "literal_error"
  | notList => "list_type"
  | notMap => "dict_type"
  | notRecord _ => "model_type"
  | noFields => "model_attributes_type"
  | malformedJson => "json_invalid"

/-- The choices in quotes, with commas between them and `or` before the last. -/
def choiceText : List String → String
  | [] => ""
  | [a] => "'" ++ a ++ "'"
  | [a, b] => "'" ++ a ++ "' or '" ++ b ++ "'"
  | a :: b :: c :: rest => "'" ++ a ++ "', " ++ choiceText (b :: c :: rest)

def message : Cause → String
  | missing => "Field required"
  | notText => "Input should be a valid string"
  | notInteger => "Input should be a valid integer"
  | notIntegerText => "Input should be a valid integer, unable to parse string as an integer"
  | fractional => "Input should be a valid integer, got a number with a fractional part"
  | notFinite => "Input should be a finite number"
  | tooManyDigits => "Unable to parse input string as an integer, exceeded maximum size"
  | notNumberText => "Input should be a valid number, unable to parse string as a number"
  | notTruthValue => "Input should be a valid boolean"
  | notTruthText => "Input should be a valid boolean, unable to interpret input"
  | notListed choices => "Input should be " ++ choiceText choices
  | notList => "Input should be a valid list"
  | notMap => "Input should be a valid dictionary"
  | notRecord name => "Input should be a valid dictionary or instance of " ++ name
  | noFields => "Input should be a valid dictionary or object to extract fields from"
  | malformedJson => "JSON decode error"

end Cause

structure Fault where
  path : List Place
  cause : Cause
  deriving DecidableEq, Repr

namespace Fault

def under (p : Place) (f : Fault) : Fault := { f with path := p :: f.path }

end Fault

/-- The value that passed a check, or every fault that was found. -/
inductive Checked (α : Type) where
  | ok (value : α)
  | faulty (faults : List Fault)
  deriving DecidableEq, Repr

namespace Checked

variable {α β : Type}

def fail (c : Cause) : Checked α := .faulty [⟨[], c⟩]

def map (f : α → β) : Checked α → Checked β
  | .ok a => .ok (f a)
  | .faulty fs => .faulty fs

/-- Both checks are made; their faults follow one another. -/
def ap (f : Checked (α → β)) (x : Checked α) : Checked β :=
  match f, x with
  | .ok f, .ok a => .ok (f a)
  | .ok _, .faulty fs => .faulty fs
  | .faulty fs, .ok _ => .faulty fs
  | .faulty fs, .faulty gs => .faulty (fs ++ gs)

instance : Applicative Checked where
  pure := .ok
  map := map
  seq f x := ap f (x ())

/-- Go on with the value of a check that everything else hangs on. -/
def andThen (x : Checked α) (f : α → Checked β) : Checked β :=
  match x with
  | .ok a => f a
  | .faulty fs => .faulty fs

/-- Faults of a part are faults of the whole, further down. -/
def under (p : Place) : Checked α → Checked α
  | .ok a => .ok a
  | .faulty fs => .faulty (fs.map (·.under p))

def toExcept : Checked α → Except (List Fault) α
  | .ok a => .ok a
  | .faulty fs => .error fs

@[simp] theorem map_ok (f : α → β) (a : α) : f <$> (Checked.ok a) = .ok (f a) := rfl

@[simp] theorem seq_ok (f : α → β) (a : α) : Checked.ok f <*> Checked.ok a = .ok (f a) := rfl

@[simp] theorem pure_eq (a : α) : (pure a : Checked α) = .ok a := rfl

@[simp] theorem under_ok (p : Place) (a : α) : (Checked.ok a).under p = .ok a := rfl

/-- All checks of a list, in order. -/
def ofList : List (Checked α) → Checked (List α)
  | [] => .ok []
  | x :: xs => ap (map List.cons x) (ofList xs)

theorem ofList_ok_iff (xs : List (Checked α)) (as : List α) :
    ofList xs = .ok as ↔ xs = as.map .ok := by
  induction xs generalizing as with
  | nil => cases as <;> simp [ofList]
  | cons x xs ih =>
    cases x with
    | faulty fs => cases hx : ofList xs <;> cases as <;> simp [ofList, map, ap, hx]
    | ok a =>
      cases hx : ofList xs with
      | faulty gs =>
        cases as with
        | nil => simp [ofList, map, ap, hx]
        | cons b bs =>
          have : xs ≠ bs.map .ok := fun h => by simp [(ih bs).mpr h] at hx
          simp [ofList, map, ap, hx, this]
      | ok bs =>
        have hb := (ih bs).mp hx
        cases as with
        | nil => simp [ofList, map, ap, hx]
        | cons c cs =>
          have inj : xs = cs.map .ok ↔ bs = cs := by
            constructor
            · intro h
              have := (ih cs).mpr h
              rw [hx] at this
              exact Checked.ok.inj this
            · rintro rfl; exact hb
          simp [ofList, map, ap, hx, inj]

end Checked
end SchemaLineage
