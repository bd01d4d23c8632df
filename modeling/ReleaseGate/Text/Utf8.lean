/-! Bytes read as UTF-8 text, whether or not they are such a text. -/

namespace ReleaseGate.Text.Utf8

/-- A character whose first bytes were read: their bits, where the next byte must lie, and how many
follow that. -/
structure Begun where
  bits : Nat
  least : Nat := 0x80
  most : Nat := 0xBF
  later : Nat
  deriving DecidableEq, Repr

/-- What a byte between two characters comes to: a character, or one that is begun. The bounds of
the second byte leave out characters that have a shorter form, halves of a pair, and what lies
beyond the last character. -/
def first (byte : Nat) : List (Option Char) × Option Begun :=
  if byte < 0x80 then ([some (Char.ofNat byte)], none)
  else if byte < 0xC2 then ([none], none)
  else if byte < 0xE0 then ([], some { bits := byte - 0xC0, later := 0 })
  else if byte < 0xF0 then
    let least := if byte = 0xE0 then 0xA0 else 0x80
    let most := if byte = 0xED then 0x9F else 0xBF
    ([], some { bits := byte - 0xE0, least, most, later := 1 })
  else if byte < 0xF5 then
    let least := if byte = 0xF0 then 0x90 else 0x80
    let most := if byte = 0xF4 then 0x8F else 0xBF
    ([], some { bits := byte - 0xF0, least, most, later := 2 })
  else ([none], none)

/-- What a byte comes to after a begun character. One that does not fit breaks the character off
and counts for itself. -/
def next (begun : Begun) (byte : Nat) : List (Option Char) × Option Begun :=
  if begun.least ≤ byte ∧ byte ≤ begun.most then
    let bits := 64 * begun.bits + (byte - 0x80)
    match begun.later with
    | 0 => ([some (Char.ofNat bits)], none)
    | later + 1 => ([], some { bits, later })
  else
    let (read, begun) := first byte
    (none :: read, begun)

def readFrom : Option Begun → List UInt8 → List (Option Char)
  | none, [] => []
  | some _, [] => [none]
  | none, byte :: bytes =>
    let (read, begun) := first byte.toNat
    read ++ readFrom begun bytes
  | some begun, byte :: bytes =>
    let (read, begun) := next begun byte.toNat
    read ++ readFrom begun bytes

/-- The characters that some bytes spell, with `none` where a byte or a broken character spells
none. -/
def read (bytes : List UInt8) : List (Option Char) := readFrom none bytes

example : read [0xE2, 0x82, 0x41, 0xFF] = [none, some 'A', none] := by decide

end ReleaseGate.Text.Utf8
