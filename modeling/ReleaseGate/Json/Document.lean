import ReleaseGate.Json.Basic

namespace ReleaseGate.Json

/-- Why a text was refused: it is no JSON, it ends too early, or it says something unwanted. -/
inductive Category where
  | syntaxError
  | endOfText
  | wrongData
  deriving DecidableEq, Repr

/-- Where a text stops being JSON. A value that is only passed over is looked at less closely, so
it may be refused for another reason. -/
structure Flaw where
  read : Category
  skipped : Category
  deriving DecidableEq, Repr

def Flaw.same (c : Category) : Flaw := ⟨c, c⟩

mutual

/-- A text read as far as it is JSON. A number out of range and a string that names half a
surrogate pair have no value. -/
inductive Document where
  | null
  | bool (b : Bool)
  | number (n : Option Number)
  | text (s : Option String)
  | list (items : Items)
  | record (fields : Fields)
  | flawed (flaw : Flaw)

/-- The items of a list, in order, and how it ends. -/
inductive Items where
  | closed
  | broken (flaw : Flaw)
  | item (value : Document) (rest : Items)

/-- The fields of a record, in order, and how it ends. -/
inductive Fields where
  | closed
  | broken (flaw : Flaw)
  | field (key : Option String) (value : Document) (rest : Fields)

end

mutual

/-- The document of a value has no flaw. -/
def document : Json → Document
  | null => .null
  | bool b => .bool b
  | number n => .number (some n)
  | text s => .text (some s)
  | list items => .list (documentItems items)
  | record fields => .record (documentFields fields)

def documentItems : List Json → Items
  | [] => .closed
  | item :: rest => .item (document item) (documentItems rest)

def documentFields : List (String × Json) → Fields
  | [] => .closed
  | (key, value) :: rest => .field (some key) (document value) (documentFields rest)

end

end ReleaseGate.Json
