import ReleaseGate.Text.Pieces

namespace ReleaseGate

/-- The three numbers of a version. -/
structure Core where
  major : Nat
  minor : Nat
  patch : Nat
  deriving DecidableEq, Repr

/-- A dotted part of a pre-release or of build metadata. -/
abbrev Identifier := List Char

/-- A semantic version. No pre-release means a release. -/
structure Version where
  core : Core
  pre : List Identifier := []
  build : List Identifier := []
  deriving DecidableEq, Repr

namespace Identifier

/-- An identifier of digits alone counts as a number. -/
def isNumber (i : Identifier) : Bool := i.all Char.isDigit

def text (is : List Identifier) : List Char := ['.'].intercalate is

end Identifier

namespace Core

def parts (c : Core) : List (List Char) :=
  [Nat.toDigits 10 c.major, Nat.toDigits 10 c.minor, Nat.toDigits 10 c.patch]

def text (c : Core) : List Char := ['.'].intercalate c.parts

/-- Numbers compare from the left. -/
def order (a b : Core) : Ordering :=
  (compare a.major b.major).then ((compare a.minor b.minor).then (compare a.patch b.patch))

end Core

namespace Version

def suffix (lead : Char) (is : List Identifier) : List Char :=
  if is.isEmpty then [] else lead :: Identifier.text is

def chars (v : Version) : List Char :=
  v.core.text ++ suffix '-' v.pre ++ suffix '+' v.build

def text (v : Version) : String := String.ofList v.chars

end Version

end ReleaseGate
