import ReleaseGate.Json.Document
import ReleaseGate.Json.Numeral
import ReleaseGate.Text.Percent

namespace ReleaseGate.Json

/-- What reading gives: a result, and the text after it unless a flaw was met. -/
abbrev Reading (α : Type) := α × Option (List Char)

def isSpace (c : Char) : Bool := c == ' ' || c == '\n' || c == '\t' || c == '\r'

def skipSpace (cs : List Char) : List Char := cs.dropWhile isSpace

def flawed (flaw : Flaw) : Reading Document := (.flawed flaw, none)

/-- The rest of a word whose first letter is known. -/
def word (result : Document) : List Char → List Char → Reading Document
  | [], cs => (result, some cs)
  | _ :: _, [] => flawed (.same .endOfText)
  | w :: ws, c :: cs => if w = c then word result ws cs else flawed (.same .syntaxError)

/-- A piece of a string: a character, or a 16-bit code given by its digits. -/
inductive Unit16 where
  | plain (c : Char)
  | code (n : Nat)
  deriving DecidableEq, Repr

/-- What the codes of a string come to: characters, an unpaired half, or a first half at the
end. -/
inductive Pairing where
  | whole (cs : List Char)
  | unpaired
  | pending
  deriving DecidableEq, Repr

def Pairing.cons (c : Char) : Pairing → Pairing
  | whole cs => whole (c :: cs)
  | other => other

def isFirstHalf (n : Nat) : Bool := 0xD800 ≤ n && n ≤ 0xDBFF

def isSecondHalf (n : Nat) : Bool := 0xDC00 ≤ n && n ≤ 0xDFFF

def pairUp : List Unit16 → Pairing
  | [] => .whole []
  | .plain c :: rest => (pairUp rest).cons c
  | .code n :: rest =>
    if isSecondHalf n then .unpaired
    else if isFirstHalf n then
      match rest with
      | [] => .pending
      | .code m :: rest =>
        if isSecondHalf m then
          (pairUp rest).cons (Char.ofNat (0x10000 + 0x400 * (n - 0xD800) + (m - 0xDC00)))
        else .unpaired
      | .plain _ :: _ => .unpaired
    else (pairUp rest).cons (Char.ofNat n)

def quad? (a b c d : Char) : Option Nat := do
  let a ← Text.Percent.hexValue? a
  let b ← Text.Percent.hexValue? b
  let c ← Text.Percent.hexValue? c
  let d ← Text.Percent.hexValue? d
  return 0x1000 * a + 0x100 * b + 0x10 * c + d

def escape? (c : Char) : Option Char :=
  if c = '"' || c = '\\' || c = '/' then some c
  else if c = 'b' then some '\x08'
  else if c = 'f' then some '\x0c'
  else if c = 'n' then some '\n'
  else if c = 'r' then some '\r'
  else if c = 't' then some '\t'
  else none

/-- The units of a string after its opening quote, last first, and the text after the closing
quote or the reason why there is none. An escape by code takes four bytes. -/
def stringUnits (done : List Unit16) : List Char → List Unit16 × Except Category (List Char)
  | [] => (done, .error .endOfText)
  | '"' :: cs => (done, .ok cs)
  | '\\' :: 'u' :: a :: b :: c :: d :: cs =>
    match quad? a b c d with
    | some n => stringUnits (.code n :: done) cs
    | none => (done, .error .syntaxError)
  | '\\' :: 'u' :: cs =>
    (done, .error (if (String.ofList cs).utf8ByteSize < 4 then .endOfText else .syntaxError))
  | ['\\'] => (done, .error .endOfText)
  | '\\' :: c :: cs =>
    match escape? c with
    | some e => stringUnits (.plain e :: done) cs
    | none => (done, .error .syntaxError)
  | c :: cs =>
    if c.toNat < 0x20 then (done, .error .syntaxError) else stringUnits (.plain c :: done) cs

/-- A string after its opening quote: its value, or the flaw that ends it. An unpaired half is
noticed before a flaw that comes later. -/
def stringBody (cs : List Char) : Except Flaw (Option String × List Char) :=
  let (units, ending) := stringUnits [] cs
  match pairUp units.reverse, ending with
  | .whole value, .ok rest => .ok (some (String.ofList value), rest)
  | _, .ok rest => .ok (none, rest)
  | .unpaired, .error c => .error ⟨.syntaxError, c⟩
  | _, .error c => .error (.same c)

/-- A number that breaks off is too short when it is wanted, and no number when it is skipped. -/
def brokenNumber (cs : List Char) : Reading Document :=
  flawed ⟨if cs.isEmpty then .endOfText else .syntaxError, .syntaxError⟩

def exponentPart (n : Numeral) (cs : List Char) : Reading Document :=
  let (minus, cs) := match cs with
    | '+' :: cs => (false, cs)
    | '-' :: cs => (true, cs)
    | cs => (false, cs)
  let (digits, rest) := cs.span Char.isDigit
  if digits.isEmpty then brokenNumber rest
  else (.number { n with exponent := some (minus, digits) }.value?, some rest)

def exponentOrEnd (n : Numeral) : List Char → Reading Document
  | 'e' :: cs | 'E' :: cs => exponentPart n cs
  | cs => (.number n.value?, some cs)

def fractionPart (n : Numeral) : List Char → Reading Document
  | '.' :: cs =>
    let (digits, rest) := cs.span Char.isDigit
    if digits.isEmpty then brokenNumber rest
    else exponentOrEnd { n with fraction := some digits } rest
  | cs => exponentOrEnd n cs

/-- A number from its first digit. A zero in front stands alone. -/
def numberBody (negative : Bool) (cs : List Char) : Reading Document :=
  let (digits, rest) := cs.span Char.isDigit
  match digits with
  | [] => brokenNumber cs
  | '0' :: _ :: _ => flawed (.same .syntaxError)
  | _ => fractionPart ⟨negative, digits, none, none⟩ rest

/-- A value that is not a list or a record. -/
def scalar : List Char → Reading Document
  | [] => flawed (.same .endOfText)
  | 'n' :: cs => word .null ['u', 'l', 'l'] cs
  | 't' :: cs => word (.bool true) ['r', 'u', 'e'] cs
  | 'f' :: cs => word (.bool false) ['a', 'l', 's', 'e'] cs
  | '-' :: cs => numberBody true cs
  | '"' :: cs =>
    match stringBody cs with
    | .ok (value, rest) => (.text value, some rest)
    | .error flaw => flawed flaw
  | c :: cs => if c.isDigit then numberBody false (c :: cs) else flawed (.same .syntaxError)

mutual

def readValue : Nat → List Char → Reading Document
  | 0, _ => flawed (.same .endOfText)
  | fuel + 1, cs =>
    match skipSpace cs with
    | '[' :: cs =>
      let (items, rest) := readItems fuel true cs
      (.list items, rest)
    | '\x7b' :: cs =>
      let (fields, rest) := readFields fuel true cs
      (.record fields, rest)
    | cs => scalar cs

def readItems : Nat → Bool → List Char → Reading Items
  | 0, _, _ => (.broken (.same .endOfText), none)
  | fuel + 1, first, cs =>
    match skipSpace cs with
    | [] => (.broken (.same .endOfText), none)
    | ']' :: cs => (.closed, some cs)
    | c :: cs =>
      if first then readItem fuel (c :: cs)
      else if c = ',' then
        match skipSpace cs with
        | ']' :: _ => (.broken (.same .syntaxError), none)
        | cs => readItem fuel cs
      else (.broken (.same .syntaxError), none)

def readItem : Nat → List Char → Reading Items
  | 0, _ => (.broken (.same .endOfText), none)
  | fuel + 1, cs =>
    match readValue fuel cs with
    | (value, none) => (.item value .closed, none)
    | (value, some cs) =>
      let (items, rest) := readItems fuel false cs
      (.item value items, rest)

def readFields : Nat → Bool → List Char → Reading Fields
  | 0, _, _ => (.broken (.same .endOfText), none)
  | fuel + 1, first, cs =>
    match skipSpace cs with
    | [] => (.broken (.same .endOfText), none)
    | '\x7d' :: cs => (.closed, some cs)
    | c :: cs =>
      if first then readField fuel (c :: cs)
      else if c = ',' then readField fuel (skipSpace cs)
      else (.broken (.same .syntaxError), none)

def readField : Nat → List Char → Reading Fields
  | 0, _ => (.broken (.same .endOfText), none)
  | fuel + 1, cs =>
    match cs with
    | [] => (.broken (.same .endOfText), none)
    | '"' :: cs =>
      match stringBody cs with
      | .error flaw => (.broken flaw, none)
      | .ok (key, cs) =>
        match skipSpace cs with
        | [] => (.field key (.flawed (.same .endOfText)) .closed, none)
        | ':' :: cs =>
          match readValue fuel cs with
          | (value, none) => (.field key value .closed, none)
          | (value, some cs) =>
            let (fields, rest) := readFields fuel false cs
            (.field key value fields, rest)
        | _ :: _ => (.field key (.flawed (.same .syntaxError)) .closed, none)
    | _ :: _ => (.broken (.same .syntaxError), none)

end

/-- The document at the start of a text, and whether more than white space follows it. -/
def Document.ofText (text : String) : Document × Bool :=
  let cs := text.toList
  match readValue (4 * cs.length + 4) cs with
  | (document, some rest) => (document, !(skipSpace rest).isEmpty)
  | (document, none) => (document, false)

end ReleaseGate.Json
