import ReleaseGate.Version.Basic

namespace ReleaseGate.Version

/-- The largest number a version may hold. -/
def maxNumber : Nat := 0xFFFFFFFFFFFFFFFF

/-- The value of a run of decimal digits. -/
def digitsValue (digits : List Char) : Nat :=
  digits.foldl (fun n c => 10 * n + (c.toNat - 48)) 0

def isDigits (cs : List Char) : Bool := !cs.isEmpty && cs.all Char.isDigit

/-- A zero in front is allowed in the number zero alone. -/
def isPadded (cs : List Char) : Bool :=
  match cs with
  | '0' :: _ :: _ => true
  | _ => false

/-- A number without padding, no larger than `maxNumber`. -/
def number? (cs : List Char) : Option Nat :=
  if isDigits cs && !isPadded cs && digitsValue cs ≤ maxNumber then some (digitsValue cs)
  else none

def isIdentifierChar (c : Char) : Bool := c.isAlphanum || c == '-'

/-- Build identifiers are letters, digits and hyphens, at least one. -/
def buildIdentifier? (cs : List Char) : Option Identifier :=
  if !cs.isEmpty && cs.all isIdentifierChar then some cs else none

/-- A pre-release identifier that is a number has no padding. -/
def preIdentifier? (cs : List Char) : Option Identifier :=
  if isDigits cs && isPadded cs then none else buildIdentifier? cs

/-- Three numbers between dots. -/
def core? (cs : List Char) : Option Core :=
  match Text.pieces '.' cs with
  | [major, minor, patch] => do
    return ⟨← number? major, ← number? minor, ← number? patch⟩
  | _ => none

/-- The numbers, the pre-release and the build metadata of a text, each still unread. The build
metadata follows the first plus sign, the pre-release the first hyphen before it. -/
def sections (cs : List Char) : List Char × Option (List Char) × Option (List Char) :=
  let (front, build) := Text.cut '+' cs
  let (numbers, pre) := Text.cut '-' front
  (numbers, pre, build)

def identifiers? (one : List Char → Option Identifier) :
    Option (List Char) → Option (List Identifier)
  | none => some []
  | some cs => (Text.pieces '.' cs).mapM one

/-- A text in the strict form of semantic versions. -/
def ofChars? (cs : List Char) : Option Version := do
  let (numbers, pre, build) := sections cs
  return ⟨← core? numbers, ← identifiers? preIdentifier? pre, ← identifiers? buildIdentifier? build⟩

/-- A numeric part without its padding; nothing but zeros is one zero. -/
def unpadded (cs : List Char) : List Char :=
  match cs.dropWhile (· == '0') with
  | [] => ['0']
  | rest => rest

/-- One to three numeric parts become three, without padding; missing ones are zero. -/
def filled? (numbers : List Char) : Option (List Char) :=
  let parts := Text.pieces '.' numbers
  if parts.length ≤ 3 && parts.all isDigits then
    some (['.'].intercalate (parts.map unpadded ++ List.replicate (3 - parts.length) ['0']))
  else none

/-- The text up to the first hyphen or plus sign, and the rest. -/
def front (cs : List Char) : List Char × List Char :=
  cs.span fun c => c != '-' && c != '+'

/-- White space around the text and one leading `v` do not count. -/
def bare (s : String) : List Char :=
  match Text.trimmed s.toList with
  | 'v' :: cs => cs
  | cs => cs

/-- A version in strict form, or one whose numbers are padded or partly left out. -/
def lenient? (s : String) : Option Version :=
  let cs := bare s
  match ofChars? cs with
  | some v => some v
  | none => do
    let (numbers, rest) := front cs
    let filled ← filled? numbers
    ofChars? (filled ++ rest)

end ReleaseGate.Version
