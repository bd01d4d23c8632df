/-!
Text in letters, digits and hyphens: the ASCII characters as they are, and after the last hyphen a
row of numbers that say which others go where, the lowest character first.
-/

namespace ReleaseGate.Text.Punycode

/-- Digits are small letters from 0 on and then figures. -/
def digit (n : Nat) : Char := if n < 26 then Char.ofNat (97 + n) else Char.ofNat (48 + (n - 26))

def digitValue? (c : Char) : Option Nat :=
  if c.isDigit then some (c.toNat - 48 + 26)
  else if c.isAlpha then some (c.toLower.toNat - 97)
  else none

def base : Nat := 36

/-- The first character that needs a number. -/
def firstCode : Nat := 0x80

/-- The bias of the first number. -/
def firstBias : Nat := 72

/-- A digit below this ends a number. Digits are counted by `k`, in steps of the base. -/
def threshold (k bias : Nat) : Nat :=
  if k ≤ bias then 1 else if bias + 26 ≤ k then 26 else k - bias

theorem threshold_pos (k bias : Nat) : 0 < threshold k bias := by
  unfold threshold
  split
  · omega
  · split <;> omega

/-- The bias for a number like `delta`, on top of the steps counted so far. -/
def settle (delta steps : Nat) : Nat :=
  if 455 < delta then settle (delta / 35) (steps + base)
  else steps + base * delta / (delta + 38)
termination_by delta

/-- The bias after a number, when `count` characters stand. -/
def adapt (delta count : Nat) (first : Bool) : Nat :=
  let delta := if first then delta / 700 else delta / 2
  settle (delta + delta / count) 0

/-- The digits of a number from the `k`-th on. -/
def digits (bias k n : Nat) : List Char :=
  let t := threshold k bias
  if n < t then [digit n]
  else digit (t + (n - t) % (base - t)) :: digits bias (k + base) ((n - t) / (base - t))
termination_by n
decreasing_by
  have := threshold_pos k bias
  have := Nat.div_le_self (n - threshold k bias) (base - threshold k bias)
  omega

/-- What is written, how far the next number has come, the bias it will have, and how many
characters it finds. -/
structure Writing where
  digits : List Char := []
  delta : Nat
  bias : Nat := firstBias
  count : Nat

/-- A character is passed when it stands already, and written when its turn has come. -/
def Writing.see (basics code : Nat) (w : Writing) (c : Char) : Writing :=
  if c.toNat < code then { w with delta := w.delta + 1 }
  else if c.toNat = code then
    { digits := w.digits ++ Punycode.digits w.bias base w.delta
      delta := 0
      bias := adapt w.delta (w.count + 1) (w.count = basics)
      count := w.count + 1 }
  else w

/-- Each code has its turn. -/
def Writing.turns (cs : List Char) (basics : Nat) (w : Writing) (next : Nat) : List Nat → Writing
  | [] => w
  | code :: later =>
    let w := { w with delta := w.delta + (code - next) * (w.count + 1) }
    let w := cs.foldl (see basics code) w
    turns cs basics { w with delta := w.delta + 1 } (code + 1) later

def isBasic (c : Char) : Bool := c.toNat < firstCode

def encode (cs : List Char) : List Char :=
  let basics := cs.filter isBasic
  let codes := ((cs.filter (! isBasic ·)).map Char.toNat).mergeSort.eraseDups
  let written := Writing.turns cs basics.length ⟨[], 0, firstBias, basics.length⟩ firstCode codes
  basics ++ (if basics.isEmpty then [] else ['-']) ++ written.digits

/-- What has been read: the characters that stand, the code and the place reached, and of the
number that is being read its start, the weight of its next digit and the count of its digits. -/
structure Reading where
  text : List Char
  code : Nat := firstCode
  place : Nat := 0
  bias : Nat := firstBias
  start : Nat := 0
  weight : Nat := 1
  k : Nat := base

/-- No number goes beyond 32 bits. -/
def limit : Nat := 0xFFFFFFFF

/-- A digit goes on with a number or ends it; the number's end puts a character in its place. -/
def Reading.digit? (r : Reading) (c : Char) : Option Reading := do
  let value ← digitValue? c
  let place := r.place + value * r.weight
  if limit < value * r.weight || limit < place then none
  let t := threshold r.k r.bias
  if value < t then
    let count := r.text.length + 1
    let code := r.code + place / count
    if code < 0xD800 || (0xDFFF < code && code < 0x110000) then
      let here := place % count
      return {
        text := r.text.take here ++ Char.ofNat code :: r.text.drop here
        code := code
        place := here + 1
        bias := adapt (place - r.start) count (r.start = 0)
        start := here + 1 }
    else none
  else
    let weight := r.weight * (base - t)
    if limit < weight then none
    return { r with place := place, weight := weight, k := r.k + base }

/-- The text that a code stands for. A hyphen parts the ASCII characters from the numbers, unless
there are none before it. -/
def decode? (code : List Char) : Option (List Char) := do
  let numbers := (code.reverse.takeWhile (· != '-')).reverse
  let basics := code.take (code.length - numbers.length - 1)
  let numbers := if basics.isEmpty then code else numbers
  let read ← numbers.foldlM Reading.digit? { text := basics }
  if read.k = base then return read.text else none

end ReleaseGate.Text.Punycode
