namespace ReleaseGate.Text.Percent

def hexDigit (n : Nat) : Char :=
  if n < 10 then Char.ofNat (48 + n) else Char.ofNat (55 + n)

def hexValue? (c : Char) : Option Nat :=
  if '0' ≤ c ∧ c ≤ '9' then some (c.toNat - 48)
  else if 'A' ≤ c ∧ c ≤ 'F' then some (c.toNat - 55)
  else if 'a' ≤ c ∧ c ≤ 'f' then some (c.toNat - 87)
  else none

/-- A percent sign and the two capital hexadecimal digits of the byte. -/
def escaped (b : UInt8) : List Char :=
  ['%', hexDigit (b.toNat / 16), hexDigit (b.toNat % 16)]

/-- Letters, digits and `-`, `_`, `.`, `~` stand for themselves. -/
def isPlain (b : UInt8) : Bool :=
  (48 ≤ b && b ≤ 57) || (65 ≤ b && b ≤ 90) || (97 ≤ b && b ≤ 122) ||
    b == 45 || b == 46 || b == 95 || b == 126

def encodeByte (b : UInt8) : List Char :=
  if isPlain b then [Char.ofNat b.toNat] else escaped b

/-- Every byte of the UTF-8 form that is not plain is escaped. -/
def encode (s : String) : String :=
  String.ofList (s.toList.flatMap fun c => (String.utf8EncodeChar c).flatMap encodeByte)

/-- The bytes a text stands for. A percent sign without two hexadecimal digits after it stands for
itself. -/
def decodeBytes : List Char → List UInt8
  | [] => []
  | '%' :: h :: l :: cs =>
    match hexValue? h, hexValue? l with
    | some high, some low => UInt8.ofNat (16 * high + low) :: decodeBytes cs
    | _, _ => String.utf8EncodeChar '%' ++ decodeBytes (h :: l :: cs)
  | c :: cs => String.utf8EncodeChar c ++ decodeBytes cs

/-- The text that the bytes spell, if they spell one. -/
def decode? (s : String) : Option String :=
  String.fromUTF8? ⟨(decodeBytes s.toList).toArray⟩

/-- Pairs written `key=value` with encoded values, joined by `&`. -/
def query (pairs : List (String × String)) : String :=
  "&".intercalate (pairs.map fun (key, value) => key ++ "=" ++ encode value)

end ReleaseGate.Text.Percent
