import ReleaseGate.Dict
import ReleaseGate.Text.Double

namespace ReleaseGate

/-- A number is a natural below `2 ^ 64`, the negative of one up to `2 ^ 63`, or a double, kept by
its bits. -/
inductive Json.Number where
  | whole (n : Nat)
  | negative (n : Nat)
  | real (bits : UInt64)
  deriving DecidableEq, Repr

/-- A JSON value. The keys of a record ascend and differ. -/
inductive Json where
  | null
  | bool (b : Bool)
  | number (n : Json.Number)
  | text (s : String)
  | list (items : List Json)
  | record (fields : List (String × Json))
  deriving Repr

namespace Json

mutual

/-- Whether two values are the same. -/
def same : Json → Json → Bool
  | null, null => true
  | bool a, bool b => a == b
  | number a, number b => a == b
  | text a, text b => a == b
  | list as, list bs => sameItems as bs
  | record as, record bs => sameFields as bs
  | _, _ => false

def sameItems : List Json → List Json → Bool
  | [], [] => true
  | a :: as, b :: bs => same a b && sameItems as bs
  | _, _ => false

def sameFields : List (String × Json) → List (String × Json) → Bool
  | [], [] => true
  | (k, a) :: as, (l, b) :: bs => k == l && same a b && sameFields as bs
  | _, _ => false

end

mutual

theorem same_iff (a b : Json) : same a b = true ↔ a = b := by
  cases a <;> cases b <;> simp [same, sameItems_iff, sameFields_iff]

theorem sameItems_iff (as bs : List Json) : sameItems as bs = true ↔ as = bs := by
  cases as <;> cases bs <;> simp [sameItems, same_iff, sameItems_iff]

theorem sameFields_iff (as bs : List (String × Json)) : sameFields as bs = true ↔ as = bs := by
  rcases as with - | ⟨⟨k, a⟩, as⟩ <;> rcases bs with - | ⟨⟨l, b⟩, bs⟩ <;>
    simp [sameFields, same_iff, sameFields_iff, and_assoc]

end

instance : DecidableEq Json := fun a b => decidable_of_iff _ (same_iff a b)

def ofNat (n : Nat) : Json := number (.whole n)

def ofOption {α : Type} (f : α → Json) : Option α → Json
  | some a => f a
  | none => null

/-- A record of the given fields; a key given twice keeps the last value. -/
def ofFields (fields : List (String × Json)) : Json :=
  record (fields.foldl (fun done (key, value) => Dict.put key value done) [])

def field? (value : Json) (key : String) : Option Json :=
  match value with
  | record fields => fields.lookup key
  | _ => none

def text? : Json → Option String
  | text s => some s
  | _ => none

def bool? : Json → Option Bool
  | bool b => some b
  | _ => none

def list? : Json → Option (List Json)
  | list items => some items
  | _ => none

def record? : Json → Option (List (String × Json))
  | record fields => some fields
  | _ => none

/-- The text in a field; an absent one is empty. -/
def textAt (value : Json) (key : String) : String := ((value.field? key).bind text?).getD ""

def boolAt (value : Json) (key : String) : Bool := ((value.field? key).bind bool?).getD false

def listAt (value : Json) (key : String) : List Json := ((value.field? key).bind list?).getD []

def recordAt (value : Json) (key : String) : List (String × Json) :=
  ((value.field? key).bind record?).getD []

end Json

end ReleaseGate
