import SchemaLineage.Sql.Dialect
import SchemaLineage.Text.Split
import SchemaLineage.Text.Case
/-
The tokens of SQL text.

A name may hold every character that is neither blank nor a mark of its own, so names in any script
are read.  Comments are kept, since one after the last statement counts as a statement.
-/

namespace SchemaLineage
namespace Sql

open Text

inductive TokenKind where
  | word
  /-- A name in quotes, which is no keyword. -/
  | quoted
  | text
  | number
  /-- A text with a marking letter, or in dollar marks, named by its node. -/
  | marked (node : String)
  | symbol
  | comment
  deriving DecidableEq, Repr

structure Token where
  kind : TokenKind
  text : String
  /-- The symbol, or a word in uppercase; empty for tokens that are never keywords. -/
  key : String
  deriving DecidableEq, Repr

/-- Characters that are tokens of their own or start one. -/
def isMark (c : Char) : Bool := "()[]{}&^:,-.=><%!|+;/\\*~?@#$'\"\x60".toList.contains c

def isNameRest (d : Dialect) (c : Char) : Bool :=
  !isBlank c && (!isMark c || (d.dollarTexts && c == '$'))

/-- Operators of three and of two characters, the longer before the shorter. -/
def symbols (d : Dialect) : List (List Char) :=
  let all := (d.extraSymbols ++
    ["<=>", "->>", "#>>", "<->", "~~~", "~~*", "==", "::", "||", "|>", ">=", "<=", "<>", "!=",
     ":=", "->", "=>", "#>", "&&", "??", "~~", "~*", "&<", "&>"]).map String.toList
  all.filter (·.length = 3) ++ all.filter (·.length = 2)

/-- Keywords of two words, which count only together. -/
def pairs (d : Dialect) : List String :=
  d.extraPairs ++
    ["GROUP BY", "ORDER BY", "PARTITION BY", "CLUSTER BY", "DISTRIBUTE BY", "SORT BY",
     "CONNECT BY", "START WITH", "GROUPING SETS", "SIMILAR TO", "DOUBLE PRECISION",
     "CHAR VARYING", "CHARACTER VARYING", "CHARACTER SET", "PRIMARY KEY", "FOREIGN KEY",
     "SQL SECURITY"]

/-- The text after a comment's opening mark; one that does not end takes all that is left. -/
def afterBlock (nested : Bool) : Nat → List Char → List Char
  | _, [] => []
  | depth, '*' :: '/' :: cs => if depth = 0 then cs else afterBlock nested (depth - 1) cs
  | depth, '/' :: '*' :: cs => afterBlock nested (if nested then depth + 1 else depth) cs
  | depth, _ :: cs => afterBlock nested depth cs

def afterBraces : List Char → List Char
  | [] => []
  | '#' :: '\x7d' :: cs => cs
  | _ :: cs => afterBraces cs

/-- The characters that a backslash and a letter stand for. -/
def backslashed? : Char → Option Char
  | 'a' => some '\x07'
  | 'b' => some '\x08'
  | 'f' => some '\x0c'
  | 'n' => some '\n'
  | 'r' => some '\r'
  | 't' => some '\t'
  | 'v' => some '\x0b'
  | '0' => some '\x00'
  | '\\' => some '\\'
  | '\'' => some '\''
  | '"' => some '"'
  | _ => none

/-- What stands before the closing mark, a doubled mark standing for itself, and what follows. -/
def readQuoted (close : Char) (backslash : Bool) :
    List Char → List Char → Option (List Char × List Char)
  | _, [] => none
  | acc, c :: d :: cs =>
    if c = close ∧ d = close then readQuoted close backslash (close :: acc) cs
    else if backslash ∧ c = '\\' then
      match backslashed? d with
      | some x => readQuoted close backslash (x :: acc) cs
      | none => readQuoted close backslash (d :: '\\' :: acc) cs
    else if c = close then some (acc.reverse, d :: cs)
    else readQuoted close backslash (c :: acc) (d :: cs)
  | acc, [c] => if c = close then some (acc.reverse, []) else none

/-- The text up to a closing mark of several characters. -/
def readUntil (close : List Char) : List Char → List Char → Option (List Char × List Char)
  | _, [] => none
  | acc, c :: cs =>
    if close.isPrefixOf (c :: cs) then some (acc.reverse, (c :: cs).drop close.length)
    else readUntil close (c :: acc) cs

/-- The digits of a number with its fraction and exponent, and what follows. -/
def readNumber (cs : List Char) : List Char × List Char :=
  let whole := cs.takeWhile Char.isDigit
  let rest := cs.drop whole.length
  let (fraction, rest) :=
    match rest with
    | '.' :: r => ('.' :: r.takeWhile Char.isDigit, r.dropWhile Char.isDigit)
    | r => ([], r)
  match rest with
  | e :: r =>
    if e = 'e' ∨ e = 'E' then
      match r with
      | s :: d :: r' =>
        if (s = '+' ∨ s = '-') ∧ d.isDigit then
          (whole ++ fraction ++ e :: s :: d :: r'.takeWhile Char.isDigit, r'.dropWhile Char.isDigit)
        else
          (whole ++ fraction ++ e :: r.takeWhile Char.isDigit, r.dropWhile Char.isDigit)
      | _ => (whole ++ fraction ++ e :: r.takeWhile Char.isDigit, r.dropWhile Char.isDigit)
    else (whole ++ fraction, rest)
  | [] => (whole ++ fraction, [])

/-- A text between `$tag$` marks, if the opening dollar sign starts one. -/
def readDollar? (cs : List Char) : Option (List Char × List Char) :=
  let tag := cs.takeWhile fun c => c.isAlphanum || c == '_' || 128 ≤ c.toNat
  let rest := cs.drop tag.length
  let named :=
    match tag with
    | [] => true
    | c :: _ => !c.isDigit
  match rest with
  | '$' :: r => if named then readUntil ('$' :: tag ++ ['$']) [] r else none
  | _ => none

def wordToken (d : Dialect) (w : List Char) : Token :=
  let s := String.ofList w
  let key := uppered s
  ⟨.word, s, (d.spellings.lookup key).getD key⟩

def symbolToken (s : List Char) : Token := ⟨.symbol, String.ofList s, String.ofList s⟩

/-- A word, joined with the next one when the two are a keyword together. -/
def readWord (d : Dialect) (cs : List Char) : Token × List Char :=
  let w := cs.takeWhile (isNameRest d)
  let rest := cs.drop w.length
  let first := wordToken d w
  let gap := rest.takeWhile isBlank
  let next := (rest.drop gap.length).takeWhile (isNameRest d)
  let both := wordToken d (w ++ ' ' :: next)
  if !gap.isEmpty && (pairs d).contains both.key then
    (both, rest.drop (gap.length + next.length))
  else (first, rest)

/-- The text that a marking letter and a quote start, if they do. -/
def readMarked? (d : Dialect) (cs : List Char) : Option (Option (Token × List Char)) :=
  match cs with
  | m :: '\'' :: r =>
    match d.markedTexts.lookup m.toLower with
    | some node =>
      some ((readQuoted '\'' false [] r).map fun p => (⟨.marked node, String.ofList p.1, ""⟩, p.2))
    | none => none
  | _ => none

/-- The number that starts here. -/
def readNumeral (d : Dialect) (cs : List Char) : Token × List Char :=
  let based (node : String) : Token × List Char :=
    let body := (cs.drop 2).takeWhile (isNameRest d)
    (⟨.marked node, String.ofList body, ""⟩, cs.drop (2 + body.length))
  let plain : Token × List Char :=
    let (n, rest) := readNumber cs
    let more := rest.takeWhile (isNameRest d)
    if d.digitNames && !more.isEmpty && n.all Char.isDigit then
      (wordToken d (n ++ more), rest.drop more.length)
    else (⟨.number, String.ofList n, ""⟩, rest)
  match cs with
  | '0' :: x :: _ =>
    if (x = 'x' ∨ x = 'X') ∧ d.hexNumbers then based "HexString"
    else if (x = 'b' ∨ x = 'B') ∧ d.bitNumbers then based "BitString"
    else plain
  | _ => plain

/-- The token that starts with a character that is not blank, and what follows it; none for a
quote that is not closed. -/
def readToken (d : Dialect) (c : Char) (cs : List Char) : Option (Token × List Char) :=
  if c = '-' ∧ cs.head? = some '-' ∨ c = '#' ∧ d.hashComments then
    some (⟨.comment, "", ""⟩, cs.dropWhile fun x => x != '\n' && x != '\r')
  else if c = '/' ∧ cs.head? = some '*' then
    some (⟨.comment, "", ""⟩, afterBlock d.nestedComments 0 (cs.drop 1))
  else if c = '\x7b' ∧ cs.head? = some '#' then
    some (⟨.comment, "", ""⟩, afterBraces (cs.drop 1))
  else if c.isDigit then some (readNumeral d (c :: cs))
  else
    match d.nameQuotes.lookup c with
    | some close =>
      (readQuoted close false [] cs).map fun p => (⟨.quoted, String.ofList p.1, ""⟩, p.2)
    | none =>
      if d.textQuotes.contains c then
        (readQuoted c d.backslashEscapes [] cs).map fun p => (⟨.text, String.ofList p.1, ""⟩, p.2)
      else
        match readMarked? d (c :: cs) with
        | some found => found
        | none =>
          match if c = '$' ∧ d.dollarTexts then readDollar? cs else none with
          | some (body, rest) => some (⟨.marked "RawString", String.ofList body, ""⟩, rest)
          | none =>
            if isMark c then
              match (symbols d).find? (·.isPrefixOf (c :: cs)) with
              | some s => some (symbolToken s, (c :: cs).drop s.length)
              | none => some (symbolToken [c], cs)
            else some (readWord d (c :: cs))

/-- All tokens.  Every one takes a character, so the length of the text is fuel enough. -/
def tokensFrom (d : Dialect) : Nat → List Char → Option (List Token)
  | 0, cs => if cs.all isBlank then some [] else none
  | fuel + 1, cs =>
    match cs with
    | [] => some []
    | c :: rest =>
      if isBlank c then tokensFrom d fuel rest
      else
        match readToken d c rest with
        | none => none
        | some (t, rest) => (tokensFrom d fuel rest).map (t :: ·)

def tokens (d : Dialect) (sql : String) : Option (List Token) :=
  tokensFrom d sql.length sql.toList

end Sql
end SchemaLineage
