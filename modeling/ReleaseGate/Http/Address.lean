import ReleaseGate.Text.Percent
import ReleaseGate.Text.Pieces

/-! Numeric addresses of hosts: four bytes, or eight groups of two bytes. -/

namespace ReleaseGate.Http.Address

/-- The number that the digits mean in the base, if all of them are digits of it. -/
def numeral? (base : Nat) (cs : List Char) : Option Nat :=
  cs.foldl (fun n c => do
    let n ← n
    let d ← Text.Percent.hexValue? c
    if d < base then some (base * n + d) else none) (some 0)

/-- A part of a four-byte address: hexadecimal after `0x`, octal after `0`, or decimal. -/
def part? : List Char → Option Nat
  | '0' :: 'x' :: rest => numeral? 16 rest
  | '0' :: rest => numeral? 8 rest
  | [] => none
  | cs => numeral? 10 cs

/-- Four bytes from up to four numbers; the last number fills what the others leave. -/
def fourBytes? (numbers : List Nat) : Option String :=
  match numbers.reverse with
  | [] => none
  | last :: others =>
    if 3 < others.length || others.any (255 < ·) || Nat.pow 256 (4 - others.length) ≤ last then none
    else
      let value := others.reverse.zipIdx.foldl
        (fun sum (n, i) => sum + n * Nat.pow 256 (3 - i)) last
      some (".".intercalate ([3, 2, 1, 0].map fun i => toString (value / Nat.pow 256 i % 256)))

/-- A host that ends in a number is an address of four bytes, or none. -/
inductive Numeric where
  | no
  | yes (address : Option String)

def numeric (host : List Char) : Numeric :=
  let labels := Text.pieces '.' host
  let labels := if labels.getLast? = some [] && 1 < labels.length then labels.dropLast else labels
  let last := labels.getLast?.getD []
  if !last.isEmpty && (last.all Char.isDigit || (part? last).isSome) then
    .yes ((labels.mapM part?).bind fourBytes?)
  else .no

/-- A group of an address: up to four hexadecimal digits. -/
def group? (cs : List Char) : Option Nat :=
  if cs.isEmpty || 4 < cs.length then none else numeral? 16 cs

/-- A byte in decimal, without a zero before it. -/
def byte? (cs : List Char) : Option Nat :=
  if cs.isEmpty || (cs.head? = some '0' && 1 < cs.length) then none
  else (numeral? 10 cs).filter (· ≤ 255)

/-- Four bytes between dots make two groups. -/
def quad? (cs : List Char) : Option (List Nat) := do
  match ← (Text.pieces '.' cs).mapM byte? with
  | [a, b, c, d] => return [256 * a + b, 256 * c + d]
  | _ => none

/-- Groups between colons. The last one may be four bytes when `quad` allows it. -/
def groups? (quad : Bool) : List (List Char) → Option (List Nat)
  | [] => some []
  | [last] =>
    if quad && last.contains '.' then quad? last else (group? last).map fun group => [group]
  | first :: rest => do return (← group? first) :: (← groups? quad rest)

def row? (quad : Bool) (cs : List Char) : Option (List Nat) :=
  if cs.isEmpty then some [] else groups? quad (Text.pieces ':' cs)

/-- The text before the first two colons in a row, and what follows them. -/
def gap? : List Char → Option (List Char × List Char)
  | [] => none
  | ':' :: ':' :: rest => some ([], rest)
  | c :: rest => (gap? rest).map fun (before, after) => (c :: before, after)

/-- The eight groups of an address. Two colons in a row stand for groups of zero. -/
def eight? (cs : List Char) : Option (List Nat) := do
  match gap? cs with
  | some (before, after) =>
    let before ← row? false before
    let after ← row? true after
    if 7 < before.length + after.length then none
    return before ++ List.replicate (8 - before.length - after.length) 0 ++ after
  | none => (row? true cs).filter (·.length = 8)

/-- The first of the longest runs of zero groups, counted from `start`, and its length. -/
def zeros (start : Nat) : List Nat → Nat × Nat
  | [] => (start, 0)
  | group :: rest =>
    let here := ((group :: rest).takeWhile (· = 0)).length
    let later := zeros (start + 1) rest
    if later.2 ≤ here then (start, here) else later

def groupsText (groups : List Nat) : String :=
  ":".intercalate (groups.map fun group => String.ofList (Nat.toDigits 16 group))

/-- Two colons stand for the first of the longest runs of zero groups, if one is longer than a
single group. -/
def text (groups : List Nat) : String :=
  let (start, length) := zeros 0 groups
  if length < 2 then groupsText groups
  else groupsText (groups.take start) ++ "::" ++ groupsText (groups.drop (start + length))

end ReleaseGate.Http.Address
