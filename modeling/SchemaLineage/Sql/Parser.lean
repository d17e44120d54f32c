import SchemaLineage.Sql.Tree
import SchemaLineage.Sql.Vocabulary
/-
Steps from which readers of SQL are made.

A step may find nothing, which is a value, or fail, which ends the reading.  Loops take a token in
each round, so the number of tokens left bounds them.
-/

namespace SchemaLineage
namespace Sql

abbrev Parser (α : Type) := StateT (List Token) Option α

namespace Parser

variable {α : Type}

def peek : Parser (Option Token) := do return (← get).head?

/-- The token after the next one. -/
def peekSecond : Parser (Option Token) := do return (← get)[1]?

def skip (n : Nat) : Parser Unit := modify (List.drop n)

/-- The words and symbols ahead. -/
def keys (n : Nat) : Parser (List String) := do return ((← get).take n).map (·.key)

def isAt (key : String) : Parser Bool := do return (← get).head?.any (·.key == key)

def isAtAny (ks : List String) : Parser Bool := do
  return (← get).head?.any fun t => ks.contains t.key && t.key != ""

/-- Whether these words or symbols stand ahead, one after the other. -/
def areAt (ks : List String) : Parser Bool := do return (← keys ks.length) == ks

/-- Take a word or symbol if it is there. -/
def eat (key : String) : Parser Bool := do
  if ← isAt key then
    skip 1
    return true
  return false

/-- Take the first of these words or symbols that is there. -/
def eatAny (ks : List String) : Parser (Option String) := do
  if ← isAtAny ks then
    let t ← peek
    skip 1
    return t.map (·.key)
  return none

def eatAll (ks : List String) : Parser Bool := do
  if ← areAt ks then
    skip ks.length
    return true
  return false

def expect (key : String) : Parser Unit := do
  if !(← eat key) then failure

/-- What has to be there. -/
def need (p : Parser (Option α)) : Parser α := do
  match ← p with
  | some a => return a
  | none => failure

/-- Read, or go back to where reading started if it fails. -/
def attempt (p : Parser α) : Parser (Option α) := fun ts =>
  match p ts with
  | some (a, rest) => some (some a, rest)
  | none => some (none, ts)

/-- Read without taking anything. -/
def ahead (p : Parser α) : Parser (Option α) := fun ts =>
  match p ts with
  | some (a, _) => some (some a, ts)
  | none => some (none, ts)

def iterate (next : α → Parser (Option α)) : Nat → α → Parser α
  | 0, a => return a
  | fuel + 1, a => do
    match ← next a with
    | some b => iterate next fuel b
    | none => return a

/-- Repeat a step from one value to the next until it finds none. -/
def loop (next : α → Parser (Option α)) (start : α) : Parser α := do
  iterate next ((← get).length + 1) start

/-- All that a step finds. -/
def many (p : Parser (Option α)) : Parser (List α) := do
  let back ← loop (fun acc => return (← p).map (· :: acc)) []
  return back.reverse

/-- What a step finds between commas; a place where it finds nothing is passed over. -/
def commaSeparated (p : Parser (Option α)) : Parser (List α) := do
  let first ← p
  let back ← loop
    (fun acc => do
      if ← eat "," then return some ((← p).toList ++ acc)
      return none)
    first.toList
  return back.reverse

def parenthesized (p : Parser α) : Parser α := do
  expect "("
  let a ← p
  expect ")"
  return a

/-- Operators of one rank, the left ones binding first. -/
def chain (operator : Parser (Option String)) (operand : Parser (Option Expr)) :
    Parser (Option Expr) := do
  match ← operand with
  | none => return none
  | some first =>
    let e ← loop
      (fun left => do
        match ← operator with
        | none => return none
        | some kind => return some (.operation kind [left, ← need operand]))
      first
    return some e

/-- The kind that belongs to the next word or symbol. -/
def operatorOf (kinds : List (String × String)) : Parser (Option String) := do
  match ← peek with
  | some t =>
    match if t.key = "" then none else kinds.lookup t.key with
    | some kind =>
      skip 1
      return some kind
    | none => return none
  | none => return none

/-- A name; `any` accepts all that can be one where a name has to follow. -/
def name (d : Dialect) (any : Bool) (excluded : List String) : Parser (Option String) := do
  match ← peek with
  | some t =>
    if t.isName d && !excluded.contains t.key || any && t.isAnyName then
      skip 1
      return some t.text
    return none
  | none => return none

/-- A text that stands where a name may. -/
def textName : Parser (Option String) := do
  match ← peek with
  | some t =>
    if t.kind = .text then
      skip 1
      return some t.text
    return none
  | none => return none

/-- Take balanced parentheses with all that they hold. -/
def skipBalanced : Nat → Nat → Parser Unit
  | 0, _ => failure
  | fuel + 1, depth => do
    match ← peek with
    | none => failure
    | some t =>
      skip 1
      if t.key = "(" then skipBalanced fuel (depth + 1)
      else if t.key = ")" then
        if depth ≤ 1 then return () else skipBalanced fuel (depth - 1)
      else if depth = 0 then failure
      else skipBalanced fuel depth

/-- Take a group in parentheses if one starts here. -/
def skipGroup : Parser Bool := do
  if ← isAt "(" then
    skipBalanced ((← get).length + 1) 0
    return true
  return false

end Parser
end Sql
end SchemaLineage
