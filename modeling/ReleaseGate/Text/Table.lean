import ReleaseGate.Text.Percent
import ReleaseGate.Text.Pieces

/-! Tables of code points, written as hexadecimal words between blanks. -/

namespace ReleaseGate.Text.Table

def hex (digits : List Char) : Nat :=
  digits.foldl (fun n c => 16 * n + (Percent.hexValue? c).getD 0) 0

def numbers (sep : Char) (word : List Char) : List Nat := (pieces sep word).map hex

/-- The words between blanks and line ends. -/
def words (text : String) : List (List Char) :=
  (((text.splitOn "\n").flatMap (·.splitOn " ")).map String.toList).filter (! ·.isEmpty)

/-- Ranges with both ends, in words such as `300-36F` and `AD`. -/
def spans (text : String) : List (Nat × Nat) :=
  (words text).filterMap fun word =>
    match numbers '-' word with
    | [only] => some (only, only)
    | [first, last] => some (first, last)
    | _ => none

def within (spans : List (Nat × Nat)) (c : Char) : Bool :=
  spans.any fun (first, last) => first ≤ c.toNat && c.toNat ≤ last

/-- Rows between semicolons; a word may hold several numbers, between dots. -/
def rows (text : String) : List (List (List Nat)) :=
  (text.splitOn ";").map fun row => (words row).map (numbers '.')

end ReleaseGate.Text.Table
