import SchemaLineage.Association
import SchemaLineage.Json.Value
/-
A JSON reader.  A fault carries the length of the text that was left where it was noticed, from which
`Json.read` computes the position; a number with a fraction or an exponent is a binary one.
-/

namespace SchemaLineage
namespace Json

def isSpace (c : Char) : Bool := c == ' ' || c == '\t' || c == '\n' || c == '\r'

def skipSpace (cs : List Char) : List Char := cs.dropWhile isSpace

def hexValue? (c : Char) : Option Nat :=
  if c.isDigit then some (c.toNat - 48)
  else if 'a' ≤ c ∧ c ≤ 'f' then some (c.toNat - 87)
  else if 'A' ≤ c ∧ c ≤ 'F' then some (c.toNat - 55)
  else none

def hexUnit? (a b c d : Char) : Option Nat := do
  let w ← hexValue? a
  let x ← hexValue? b
  let y ← hexValue? c
  let z ← hexValue? d
  return ((w * 16 + x) * 16 + y) * 16 + z

def simpleEscape? : Char → Option Char
  | '"' => some '"'
  | '\\' => some '\\'
  | '/' => some '/'
  | 'b' => some '\x08'
  | 'f' => some '\x0c'
  | 'n' => some '\n'
  | 'r' => some '\r'
  | 't' => some '\t'
  | _ => none

/-- A unit that is half of a pair and stands alone has no character of its own. -/
def unitChar (n : Nat) : Char := if 0xD800 ≤ n ∧ n ≤ 0xDFFF then '\ufffd' else Char.ofNat n

/-- The second half of a surrogate pair, if an escape with one follows.  An escape that is cut off
by the end of the text is not looked at; one with wrong digits is a fault. -/
def lowHalf? : List Char → Except Nat (Option Nat)
  | '\\' :: 'u' :: a :: b :: c :: d :: e :: cs =>
    match hexUnit? a b c d with
    | none => .error ((e :: cs).length + 5)
    | some m => .ok (if 0xDC00 ≤ m ∧ m ≤ 0xDFFF then some m else none)
  | _ => .ok none

/-- The characters of a string up to its closing quote.  `start` is the length of text left at the
opening quote, which is where a string that does not end is reported. -/
def readString (start : Nat) (acc : List Char) : List Char → Except Nat (String × List Char)
  | [] => .error start
  | '"' :: cs => .ok (String.ofList acc.reverse, cs)
  | ['\\'] => .error start
  | '\\' :: 'u' :: a :: b :: c :: d :: cs =>
    if cs.isEmpty then .error 5
    else
      match hexUnit? a b c d with
      | none => .error (cs.length + 5)
      | some n =>
        if 0xD800 ≤ n ∧ n ≤ 0xDBFF then
          match lowHalf? cs with
          | .error left => .error left
          | .ok (some m) =>
            readString start
              (Char.ofNat (0x10000 + (n - 0xD800) * 1024 + (m - 0xDC00)) :: acc) (cs.drop 6)
          | .ok none => readString start (unitChar n :: acc) cs
        else readString start (unitChar n :: acc) cs
  | '\\' :: c :: cs =>
    if c = 'u' then .error (cs.length + 1)
    else
      match simpleEscape? c with
      | some d => readString start (d :: acc) cs
      | none => .error (cs.length + 2)
  | c :: cs =>
    if c.toNat < 32 then .error (cs.length + 1) else readString start (c :: acc) cs
  termination_by cs => cs.length
  decreasing_by all_goals simp +arith

def digitsValue (ds : List Char) : Nat := ds.foldl (fun n d => n * 10 + (d.toNat - 48)) 0

/-- The digits of an exponent with its sign, if the text goes on with one. -/
def readExponent (cs : List Char) : Option (Int × List Char) :=
  match cs with
  | e :: cs =>
    if e = 'e' ∨ e = 'E' then
      let (negative, ds) :=
        match cs with
        | '-' :: ds => (true, ds)
        | '+' :: ds => (false, ds)
        | ds => (false, ds)
      let digits := ds.takeWhile Char.isDigit
      if digits.isEmpty then none
      else
        let n : Int := digitsValue digits
        some (if negative then -n else n, ds.dropWhile Char.isDigit)
    else none
  | [] => none

/-- A number, or nothing when the text does not start with one.  A leading zero ends the integer
part. -/
def readNumber? (cs : List Char) : Option (Json × List Char) :=
  let (negative, body) :=
    match cs with
    | '-' :: r => (true, r)
    | r => (false, r)
  let whole :=
    match body with
    | '0' :: _ => ['0']
    | r => r.takeWhile Char.isDigit
  if whole.isEmpty then none
  else
    let rest := body.drop whole.length
    let (fraction, rest) :=
      match rest with
      | '.' :: d :: r =>
        if d.isDigit then (d :: r.takeWhile Char.isDigit, r.dropWhile Char.isDigit) else ([], rest)
      | r => ([], r)
    match readExponent rest with
    | some (e, rest) =>
      some (.float (.ofDecimal negative (digitsValue (whole ++ fraction)) (e - fraction.length)),
        rest)
    | none =>
      if fraction.isEmpty then
        let n : Int := digitsValue whole
        some (.int (if negative then -n else n), rest)
      else
        some (.float (.ofDecimal negative (digitsValue (whole ++ fraction)) (-fraction.length)),
          rest)

def literals : List (List Char × Json) :=
  [("null".toList, .null), ("true".toList, .bool true), ("false".toList, .bool false),
   ("NaN".toList, .float .undefined), ("Infinity".toList, .float (.infinite false)),
   ("-Infinity".toList, .float (.infinite true))]

def readLiteral? (cs : List Char) : Option (Json × List Char) :=
  literals.findSome? fun (w, v) => if w.isPrefixOf cs then some (v, cs.drop w.length) else none

mutual

/-- One value.  Each level of nesting uses one unit of fuel, and each needs a character. -/
def readValue : Nat → List Char → Except Nat (Json × List Char)
  | 0, cs => .error cs.length
  | fuel + 1, cs =>
    match cs with
    | [] => .error 0
    | '"' :: r => do
      let (s, r) ← readString (r.length + 1) [] r
      return (.str s, r)
    | '\x7b' :: r =>
      match skipSpace r with
      | '\x7d' :: r => .ok (.obj [], r)
      | r => readMembers fuel [] r
    | '[' :: r =>
      match skipSpace r with
      | ']' :: r => .ok (.arr [], r)
      | r => readItems fuel [] r
    | cs =>
      match readLiteral? cs with
      | some p => .ok p
      | none =>
        match readNumber? cs with
        | some p => .ok p
        | none => .error cs.length

/-- The members of an object from a key on; a key that comes again takes the later value. -/
def readMembers : Nat → List (String × Json) → List Char → Except Nat (Json × List Char)
  | 0, _, cs => .error cs.length
  | fuel + 1, acc, cs =>
    match cs with
    | '"' :: r => do
      let (k, r) ← readString (r.length + 1) [] r
      match skipSpace r with
      | ':' :: r =>
        let (v, r) ← readValue fuel (skipSpace r)
        let acc := upsert k v acc
        match skipSpace r with
        | '\x7d' :: r => return (.obj acc, r)
        | ',' :: r => readMembers fuel acc (skipSpace r)
        | r => .error r.length
      | r => .error r.length
    | r => .error r.length

def readItems : Nat → List Json → List Char → Except Nat (Json × List Char)
  | 0, _, cs => .error cs.length
  | fuel + 1, acc, cs => do
    let (v, r) ← readValue fuel cs
    match skipSpace r with
    | ']' :: r => return (.arr (v :: acc).reverse, r)
    | ',' :: r => readItems fuel (v :: acc) (skipSpace r)
    | r => .error r.length

end

/-- Read a whole text; the fault is the position at which reading failed. -/
def read (text : String) : Except Nat Json :=
  let cs := text.toList
  let place (left : Nat) : Nat := cs.length - left
  match readValue (2 * cs.length + 2) (skipSpace cs) with
  | .error left => .error (place left)
  | .ok (v, r) =>
    let r := skipSpace r
    if r.isEmpty then .ok v else .error (place r.length)

end Json
end SchemaLineage
