import ReleaseGate.Failure
import ReleaseGate.Files.Tree
import ReleaseGate.Json.Shape

namespace ReleaseGate

/-- Items by table, each table in the order in which its items came. -/
structure Store where
  tables : List (String × List Json) := []

namespace Store

def backend : String := "key-value store"

/-- The item has this text in this field. -/
def holds (item : Json) (key value : String) : Bool :=
  (item.field? key).bind Json.text? == some value

/-- A table that is not there has no items. -/
def items (store : Store) (table : String) : List Json := (store.tables.lookup table).getD []

def insert (store : Store) (table : String) (item : Json) : Store where
  tables := (table, store.items table ++ [item]) :: store.tables.filter (·.1 ≠ table)

/-- The first item of a product and version. -/
def item? (store : Store) (table product version : String) : Option Json :=
  (store.items table).find? fun item => holds item "product" product && holds item "version" version

/-- The items of a table, or those of them that have the text of the filter in its field. -/
def scan (store : Store) (table : String) : Option (String × String) → List Json
  | none => store.items table
  | some (key, value) => (store.items table).filter (holds · key value)

def shape : Json.Shape := .map (.list .anything)

def ofJson (value : Json) : Store where
  tables := (value.record?.getD []).map fun (table, items) => (table, items.list?.getD [])

/-- The store in a snapshot file. -/
def ofFile (path : String) (content : Except Files.Fault String) : Except Failure Store :=
  match content with
  | .error fault =>
    .error (.config ("Failed to read store snapshot " ++ path ++ ": " ++ fault.text))
  | .ok text =>
    match Json.ofText shape text with
    | .error _ => .error (.config ("Malformed store snapshot " ++ path))
    | .ok value => .ok (ofJson value)

end Store

end ReleaseGate
