import ReleaseGate.Version.Reader

namespace ReleaseGate

namespace Identifier

/-- Numbers come before words. Numbers without padding compare by length, then by digits. -/
def preOrder (a b : Identifier) : Ordering :=
  match isNumber a, isNumber b with
  | false, true => .gt
  | true, false => .lt
  | false, false => compare a b
  | true, true => (compare a.length b.length).then (compare a b)

/-- Numbers come before words and compare by value, then by padding. -/
def buildOrder (a b : Identifier) : Ordering :=
  match isNumber a, isNumber b with
  | false, true => .gt
  | true, false => .lt
  | false, false => compare a b
  | true, true =>
    let x := a.dropWhile (· == '0')
    let y := b.dropWhile (· == '0')
    (compare x.length y.length).then ((compare x y).then (compare a.length b.length))

/-- Identifiers compare from the left; a list that ends first comes first. -/
def listOrder (one : Identifier → Identifier → Ordering) :
    List Identifier → List Identifier → Ordering
  | [], [] => .eq
  | [], _ :: _ => .lt
  | _ :: _, [] => .gt
  | a :: as, b :: bs => (one a b).then (listOrder one as bs)

end Identifier

namespace Version

/-- A release comes after its pre-releases. -/
def preOrder (a b : List Identifier) : Ordering :=
  match a, b with
  | [], [] => .eq
  | [], _ :: _ => .gt
  | _ :: _, [] => .lt
  | _, _ => Identifier.listOrder Identifier.preOrder a b

def order (a b : Version) : Ordering :=
  (a.core.order b.core).then
    ((preOrder a.pre b.pre).then (Identifier.listOrder Identifier.buildOrder a.build b.build))

/-- Texts that are no version come first, by characters; versions come in their order, and by
characters where it does not tell them apart. -/
def textOrder (a b : String) : Ordering :=
  match lenient? a, lenient? b with
  | some v, some w => (v.order w).then (compare a.toList b.toList)
  | none, some _ => .lt
  | some _, none => .gt
  | none, none => compare a.toList b.toList

/-- A version put in front of the first that does not come before it. -/
def place (version : String) : List String → List String
  | [] => [version]
  | other :: rest =>
    if (textOrder version other).isLE then version :: other :: rest
    else other :: place version rest

def ascending (versions : List String) : List String := versions.foldr place []

end Version

end ReleaseGate
