namespace ReleaseGate

/-- How a table came about: by its own heading, on the way to another heading, by a dotted key, or
between braces, where it may again be by a dotted key. -/
inductive Toml.Origin where
  | heading
  | passage
  | dotted
  | braces
  | dottedInBraces
  deriving DecidableEq, Repr

/-- A TOML value. Of a float and of a date only the kind is kept. A list of tables comes from
headings in double brackets. -/
inductive Toml where
  | text (s : String)
  | integer (n : Int)
  | bool (b : Bool)
  | float
  | date
  | list (items : List Toml)
  | table (origin : Toml.Origin) (fields : List (String × Toml))
  | tables (items : List (List (String × Toml)))
  deriving Repr

namespace Toml

/-- The fields of a value that stands for a record: those of a table, or the items of a list in
the order of the names. A date is a record without any of them. -/
def fields? (names : List String) : Toml → Option (List (String × Toml))
  | table _ fields => some fields
  | list items => some (names.zip items)
  | tables items => some (names.zip (items.map (table .heading)))
  | date => some []
  | _ => none

def text? : Toml → Option String
  | text s => some s
  | _ => none

def integer? : Toml → Option Int
  | integer n => some n
  | _ => none

def bool? : Toml → Option Bool
  | bool b => some b
  | _ => none

def texts? : Toml → Option (List String)
  | list items => items.mapM text?
  | tables [] => some []
  | _ => none

/-- The name of a choice: a text, or the one key of a table, with nothing in its value. -/
def choice? : Toml → Option String
  | text s => some s
  | table _ [(name, list [])] | table _ [(name, table _ [])] => some name
  | _ => none

end Toml

end ReleaseGate
