import ReleaseGate.Json.Basic

namespace ReleaseGate.Json

/-- Two to the power of 64. -/
def wordLimit : Nat := 0x10000000000000000

/-- A number as it was written. -/
structure Numeral where
  negative : Bool := false
  whole : List Char
  fraction : Option (List Char) := none
  exponent : Option (Bool × List Char) := none
  deriving DecidableEq, Repr

namespace Numeral

def digit (c : Char) : Nat := c.toNat - 48

/-- The digits that fit into 64 bits, and how many were left over. -/
def leading : Nat → List Char → Nat × Nat
  | n, [] => (n, 0)
  | n, c :: cs =>
    if 10 * n + digit c < wordLimit then leading (10 * n + digit c) cs else (n, cs.length + 1)

/-- Digits after the point go on filling 64 bits until one does not fit. -/
def following : Nat → List Char → Nat × Nat
  | n, [] => (n, 0)
  | n, c :: cs =>
    if 10 * n + digit c < wordLimit then
      let (m, used) := following (10 * n + digit c) cs
      (m, used + 1)
    else (n, 0)

def maxDouble : Float := Float.ofBits 0x7FEFFFFFFFFFFFFF

/-- Scaling by powers of ten up to `1e308` at a time; none if the result is out of range. -/
def scaled? : Nat → Float → Int → Option Float
  | 0, _, _ => none
  | tries + 1, f, power =>
    if power.natAbs ≤ 308 then
      let step := Float.ofScientific 1 false power.natAbs
      if 0 ≤ power then
        if f * step ≤ maxDouble then some (f * step) else none
      else some (f / step)
    else if f == 0 then some f
    else if 0 ≤ power then none
    else scaled? tries (f / 1e308) (power + 308)

/-- The power of ten an exponent stands for; so large a one that nothing fits is cut short. -/
def power (n : Numeral) : Int :=
  match n.exponent with
  | none => 0
  | some (minus, digits) =>
    let size : Int := min (digits.foldl (fun n c => 10 * n + digit c) 0) 1000000
    if minus then -size else size

def real? (n : Numeral) : Option UInt64 := do
  let (high, dropped) := leading 0 n.whole
  let (all, used) := following high (n.fraction.getD [])
  let f ← scaled? 8000 (UInt64.ofNat all).toFloat (n.power + dropped - used)
  return (if n.negative then -f else f).toBits

/-- The value of a number. One without fraction and exponent is an integer if 64 bits hold it. -/
def value? (n : Numeral) : Option Number :=
  let size := n.whole.foldl (fun m c => 10 * m + digit c) 0
  if n.fraction.isNone && n.exponent.isNone then
    if n.negative then
      if 0 < size ∧ size ≤ 0x8000000000000000 then some (.negative size) else n.real?.map .real
    else if size < wordLimit then some (.whole size)
    else n.real?.map .real
  else n.real?.map .real

end Numeral

end ReleaseGate.Json
