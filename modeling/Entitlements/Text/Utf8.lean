/-!
# UTF-8

Bytes to characters. A sequence that breaks off is one error, however many of its bytes were
good; the byte that broke it is looked at again. Strict decoding refuses every error, lenient
decoding puts the replacement character in its place.
-/

namespace Entitlements.Text

/-- A character under way: how many bytes it still needs, the range of the next one, and the
bits read so far. -/
structure Pending where
  /-- Bytes still needed. -/
  owed : Nat
  /-- The lowest next byte. -/
  low : Nat
  /-- The highest next byte. -/
  high : Nat
  /-- The bits read so far. -/
  bits : Nat

/-- What a byte between characters means. -/
inductive Lead where
  /-- A character of one byte. -/
  | single (c : Char)
  /-- The first of several bytes. -/
  | first (p : Pending)
  /-- No character starts so. -/
  | invalid

/-- The first byte of a character. -/
def Lead.ofByte (b : Nat) : Lead :=
  if b ≤ 0x7F then .single (Char.ofNat b)
  else if 0xC2 ≤ b ∧ b ≤ 0xDF then .first ⟨1, 0x80, 0xBF, b - 0xC0⟩
  else if b = 0xE0 then .first ⟨2, 0xA0, 0xBF, 0⟩
  else if b = 0xED then .first ⟨2, 0x80, 0x9F, b - 0xE0⟩
  else if 0xE1 ≤ b ∧ b ≤ 0xEF then .first ⟨2, 0x80, 0xBF, b - 0xE0⟩
  else if b = 0xF0 then .first ⟨3, 0x90, 0xBF, 0⟩
  else if 0xF1 ≤ b ∧ b ≤ 0xF3 then .first ⟨3, 0x80, 0xBF, b - 0xF0⟩
  else if b = 0xF4 then .first ⟨3, 0x80, 0x8F, b - 0xF0⟩
  else .invalid

/-- Characters and errors of a byte sequence, an error standing as none. -/
def decodeFrom : Option Pending → List UInt8 → List (Option Char)
  | none, [] => []
  | some _, [] => [none]
  | none, b :: rest =>
    match Lead.ofByte b.toNat with
    | .single c => some c :: decodeFrom none rest
    | .first p => decodeFrom (some p) rest
    | .invalid => none :: decodeFrom none rest
  | some p, b :: rest =>
    let n := b.toNat
    if p.low ≤ n ∧ n ≤ p.high then
      let bits := p.bits * 0x40 + n % 0x40
      if p.owed ≤ 1 then some (Char.ofNat bits) :: decodeFrom none rest
      else decodeFrom (some ⟨p.owed - 1, 0x80, 0xBF, bits⟩) rest
    else
      none :: match Lead.ofByte n with
        | .single c => some c :: decodeFrom none rest
        | .first p => decodeFrom (some p) rest
        | .invalid => none :: decodeFrom none rest

/-- The text of a byte sequence without errors. -/
def decodeStrict? (bytes : List UInt8) : Option String :=
  (decodeFrom none bytes).mapM id |>.map String.ofList

/-- The text of a byte sequence, errors replaced. -/
def decodeLenient (bytes : List UInt8) : String :=
  String.ofList ((decodeFrom none bytes).map (·.getD (Char.ofNat 0xFFFD)))

/-- The bytes of a text. -/
def encode (s : String) : List UInt8 :=
  s.toUTF8.toList

end Entitlements.Text
