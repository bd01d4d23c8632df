namespace ReleaseGate.Text.Double

/-- A finite double other than zero as `mantissa * 2 ^ exponent`. `lowGap` says that the double
below is only half as far away as the one above. -/
structure Parts where
  mantissa : Nat
  exponent : Int
  lowGap : Bool
  deriving DecidableEq, Repr

def parts (bits : UInt64) : Parts :=
  let fraction : Nat := bits.toNat % 0x10000000000000
  let scale : Nat := bits.toNat / 0x10000000000000 % 0x800
  if scale = 0 then ⟨fraction, -1074, false⟩
  else ⟨0x10000000000000 + fraction, (scale : Int) - 1075, fraction = 0 && scale ≠ 1⟩

/-- The point of the decimal grid with step `10 ^ step` that reads back as the double and is
nearest to it, if there is one; of two equally near points the even one. -/
def gridPoint? (p : Parts) (step : Int) : Option Nat :=
  let up := Nat.pow 2 (p.exponent - 2).toNat * Nat.pow 10 (-step).toNat
  let down := Nat.pow 2 (2 - p.exponent).toNat * Nat.pow 10 step.toNat
  let exact := 4 * p.mantissa * up
  let low := (4 * p.mantissa - if p.lowGap then 1 else 2) * up
  let high := (4 * p.mantissa + 2) * up
  let reads (n : Nat) : Bool :=
    if p.mantissa % 2 = 0 then low ≤ n * down && n * down ≤ high
    else low < n * down && n * down < high
  let below := exact / down
  let past := exact - below * down
  let short := (below + 1) * down - exact
  let nearer := if past < short || past = short && below % 2 = 0 then below else below + 1
  if reads nearer && nearer ≠ 0 then some nearer
  else if reads below && below ≠ 0 then some below
  else if reads (below + 1) then some (below + 1)
  else none

/-- The coarsest grid with a hit gives the fewest digits. -/
def shortestFrom (p : Parts) (step : Int) : Nat → Nat × Int
  | 0 => (p.mantissa, p.exponent)
  | tries + 1 =>
    match gridPoint? p step with
    | some n => (n, step)
    | none => shortestFrom p (step - 1) tries

/-- The fewest decimal digits that read back as the double, and the power of ten they count. -/
def shortest (bits : UInt64) : Nat × Int := shortestFrom (parts bits) 309 660

/-- Numbers from `1e-5` up to `1e16` are written out, all others with a signed exponent; at least
one digit follows a point unless there is an exponent. -/
def layout (digits : List Char) (step : Int) : List Char :=
  let point := (digits.length : Int) + step
  if 0 ≤ step ∧ point ≤ 16 then digits ++ List.replicate step.toNat '0' ++ ['.', '0']
  else if 0 < point ∧ point ≤ 16 then
    digits.take point.toNat ++ '.' :: digits.drop point.toNat
  else if -5 < point ∧ point ≤ 0 then
    ['0', '.'] ++ List.replicate (-point).toNat '0' ++ digits
  else
    let power := (if 0 < point then ['+'] else []) ++ (toString (point - 1)).toList
    match digits with
    | [d] => d :: 'e' :: power
    | d :: rest => d :: '.' :: rest ++ 'e' :: power
    | [] => power

/-- The decimal text of a finite double. -/
def text (bits : UInt64) : String :=
  let sign := if bits.toNat / 0x8000000000000000 = 1 then ['-'] else []
  if bits.toNat % 0x8000000000000000 = 0 then String.ofList (sign ++ ['0', '.', '0'])
  else
    let (digits, step) := shortest bits
    String.ofList (sign ++ layout (Nat.toDigits 10 digits) step)

end ReleaseGate.Text.Double
