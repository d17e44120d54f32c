/-
Text as bytes and back.  Bytes that are no text are read as replacement characters, one for each
longest beginning of a character.
-/

namespace SchemaLineage
namespace Text

def encodeChar (c : Char) : List Nat :=
  let n := c.toNat
  if n < 0x80 then [n]
  else if n < 0x800 then [0xC0 + n / 64, 0x80 + n % 64]
  else if n < 0x10000 then [0xE0 + n / 4096, 0x80 + n / 64 % 64, 0x80 + n % 64]
  else [0xF0 + n / 262144, 0x80 + n / 4096 % 64, 0x80 + n / 64 % 64, 0x80 + n % 64]

def replacement : Char := '\ufffd'

/-- A character of which some bytes are still to come; the next one lies between `low` and `high`. -/
structure Pending where
  value : Nat
  missing : Nat
  low : Nat := 0x80
  high : Nat := 0xBF

/-- What a byte begins: a character of its own, one of several bytes, or none.  The bounds on the
second byte leave out longer forms than necessary, surrogates, and what is beyond the last character. -/
def beginChar (b : Nat) : Char ⊕ Pending :=
  if b < 0x80 then .inl (Char.ofNat b)
  else if b < 0xC2 then .inl replacement
  else if b < 0xE0 then .inr ⟨b - 0xC0, 1, 0x80, 0xBF⟩
  else if b = 0xE0 then .inr ⟨0, 2, 0xA0, 0xBF⟩
  else if b = 0xED then .inr ⟨0xD, 2, 0x80, 0x9F⟩
  else if b < 0xF0 then .inr ⟨b - 0xE0, 2, 0x80, 0xBF⟩
  else if b = 0xF0 then .inr ⟨0, 3, 0x90, 0xBF⟩
  else if b < 0xF4 then .inr ⟨b - 0xF0, 3, 0x80, 0xBF⟩
  else if b = 0xF4 then .inr ⟨4, 3, 0x80, 0x8F⟩
  else .inl replacement

def decodeFrom : Option Pending → List Nat → List Char
  | none, [] => []
  | some _, [] => [replacement]
  | none, b :: bs =>
    match beginChar b with
    | .inl c => c :: decodeFrom none bs
    | .inr p => decodeFrom (some p) bs
  | some p, b :: bs =>
    if p.low ≤ b ∧ b ≤ p.high then
      let value := p.value * 64 + (b - 0x80)
      if p.missing ≤ 1 then Char.ofNat value :: decodeFrom none bs
      else decodeFrom (some { value, missing := p.missing - 1 }) bs
    else
      replacement ::
        match beginChar b with
        | .inl c => c :: decodeFrom none bs
        | .inr p => decodeFrom (some p) bs

def encodeBytes (cs : List Char) : List Nat := cs.flatMap encodeChar

def decodeBytes (bs : List Nat) : List Char := decodeFrom none bs

end Text
end SchemaLineage
