import ReleaseGate.Http.Domain.Spelling
import ReleaseGate.Text.Composed
import ReleaseGate.Text.Direction
import ReleaseGate.Text.Joining
import ReleaseGate.Text.Mark
import ReleaseGate.Text.Punycode

/-!
Domain names. A name is a row of labels between dots; a label with other than ASCII characters is
sent in Punycode.
-/

namespace ReleaseGate.Http.Domain

/-- What a label in Punycode begins with. -/
def codeMark : List Char := ['x', 'n', '-', '-']

/-- The longest code that is read, and the longest label that is written in one. -/
def readLimit : Nat := 2000

def writeLimit : Nat := 1000

def isAscii (c : Char) : Bool := c.toNat < 0x80

/-- A character that is spelled as itself. -/
def isSpelled (c : Char) : Bool := spelling? c == some [c]

/-- The characters of a label. A code stands for a text with other than ASCII characters that is
spelled already. -/
def plain? (label : List Char) : Option (List Char) :=
  match codeMark.isPrefixOf? label with
  | none => some label
  | some code => do
    if code.isEmpty || code.getLast? == some '-' || readLimit < code.length then none
    if code.any (! isAscii ·) then none
    let plain ← Text.Punycode.decode? code
    if plain.all isSpelled && Text.Composed.ofText plain == plain then some plain else none

/-- The characters that join their neighbours, or keep them apart. -/
def joiner : Char := '\u200d'

def nonJoiner : Char := '\u200c'

/-- The first character that is not transparent joins to one of the sides. -/
def joins (sides : List Text.Joining) (cs : List Char) : Bool :=
  match (cs.map Text.Joining.ofChar).find? (· ≠ .transparent) with
  | some side => sides.contains side
  | none => false

/-- Joiners stand after a virama; a non-joiner also between letters that would join. `before` goes
backwards from the place. -/
def joinersStand (before : List Char) : List Char → Bool
  | [] => true
  | c :: rest =>
    let virama := (before.head?.map Text.combiningClass) == some Text.virama
    let stands :=
      if c = joiner then virama
      else if c = nonJoiner then
        virama || (joins [.left, .both] before && joins [.right, .both] rest)
      else true
    stands && joinersStand (c :: before) rest

def isLabel (label : List Char) : Bool :=
  ! (label.head?.map Text.isMark).getD false && joinersStand [] label &&
    (label.length ≤ writeLimit || label.all isAscii)

/-- A label is written in one direction: its first letter says in which, its last character but for
marks is a letter of it or a number, and numbers are of one kind. -/
def oneWay (label : List Char) : Bool :=
  let directions := label.map Text.Direction.ofChar
  let last := (directions.reverse.find? (· ≠ .mark)).getD .mark
  let only (allowed : List Text.Direction) : Bool := directions.all allowed.contains
  match directions with
  | [] => true
  | .rightward :: _ =>
    only [.rightward, .number, .neutral, .mark] && [.rightward, .number].contains last
  | .leftward :: _ =>
    only [.leftward, .number, .arabicNumber, .neutral, .mark] &&
      [.leftward, .number, .arabicNumber].contains last &&
      ! (directions.contains .number && directions.contains .arabicNumber)
  | _ => false

/-- Writing that goes to the left asks of every label of the name that it goes one way. -/
def goesLeft (c : Char) : Bool :=
  0x590 ≤ c.toNat && [.leftward, .arabicNumber].contains (Text.Direction.ofChar c)

/-- A label as it is sent. -/
def written (label : List Char) : List Char :=
  if label.all isAscii then label else codeMark ++ Text.Punycode.encode label

/-- The labels of a name, as they are read. -/
def labels? (name : List Char) : Option (List (List Char)) := do
  let spelled := (← name.mapM spelling?).flatten
  if spelled.any isBarredAscii then none
  let labels ← (Text.pieces '.' (Text.Composed.ofText spelled)).mapM plain?
  if labels.all isLabel && (! labels.any (·.any goesLeft) || labels.all oneWay) then some labels
  else none

/-- A domain name as it is sent, in small ASCII letters. -/
def ofText? (name : String) : Option String := do
  let labels ← labels? name.toList
  return ".".intercalate (labels.map fun label => String.ofList (written label))

end ReleaseGate.Http.Domain
