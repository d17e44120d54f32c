import SchemaLineage.Json.Value
import SchemaLineage.Decimal.Shortest
/-
JSON text, in ASCII and on one line.
-/

namespace SchemaLineage
namespace Json

def hexDigit (n : Nat) : Char := (Nat.toDigits 16 (n % 16)).headD '0'

/-- A sixteen-bit unit as an escape. -/
def unitEscape (n : Nat) : List Char :=
  ['\\', 'u', hexDigit (n / 4096), hexDigit (n / 256), hexDigit (n / 16), hexDigit n]

/-- Characters outside ASCII are written as their sixteen-bit units. -/
def escapeChar (c : Char) : List Char :=
  if c = '"' then ['\\', '"']
  else if c = '\\' then ['\\', '\\']
  else if c = '\n' then ['\\', 'n']
  else if c = '\r' then ['\\', 'r']
  else if c = '\t' then ['\\', 't']
  else if 32 ≤ c.toNat ∧ c.toNat < 127 then [c]
  else if c.toNat < 0x10000 then unitEscape c.toNat
  else
    let n := c.toNat - 0x10000
    unitEscape (0xD800 + n / 1024) ++ unitEscape (0xDC00 + n % 1024)

def writeString (s : String) : String :=
  "\"" ++ s.toList.foldl (fun acc c => acc ++ String.ofList (escapeChar c)) "" ++ "\""

mutual

def write : Json → String
  | .null => "null"
  | .bool b => if b then "true" else "false"
  | .int n => toString n
  | .float x => x.text .seconds
  | .str s => writeString s
  | .arr xs => "[" ++ writeItems xs ++ "]"
  | .obj ms => "\x7b" ++ writeMembers ms ++ "\x7d"

def writeItems : List Json → String
  | [] => ""
  | [x] => write x
  | x :: y :: xs => write x ++ "," ++ writeItems (y :: xs)

def writeMembers : List (String × Json) → String
  | [] => ""
  | [(k, v)] => writeString k ++ ":" ++ write v
  | (k, v) :: m :: ms => writeString k ++ ":" ++ write v ++ "," ++ writeMembers (m :: ms)

end

end Json
end SchemaLineage
