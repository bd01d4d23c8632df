import ReleaseGate.Action.Basic
import ReleaseGate.Store.Release

namespace ReleaseGate.Store

/-- A table by name, with the model of its items. -/
structure Table (α : Type) where
  name : String
  model : Model α

/-- The greatest of some texts. -/
def greatest? : List String → Option String
  | [] => none
  | first :: rest => some (rest.foldl (fun best text => if best < text then text else best) first)

namespace Table

variable {α : Type}

def read (table : Table α) (item : Json) : Except Failure α :=
  (decode table.name table.model.shape item).map table.model.ofJson

/-- The record of a product and version. -/
def get (table : Table α) (product version : String) : Action (Option α) := do
  match ← Action.get (.item table.name product version) with
  | none => return none
  | some item => return some (← .ofExcept (table.read item))

/-- The versions of a product, in the order of the table. -/
def versions (table : Table α) (product : String) : Action (List String) := do
  let items ← Action.get (.scan table.name (some ("product", product)))
  .ofExcept (items.mapM fun item => (table.read item).map table.model.version)

/-- The greatest version of a product, by characters. -/
def latest (table : Table α) (product : String) : Action String := do
  match greatest? (← table.versions product) with
  | none => .fail (.missing ("No versions recorded for " ++ product))
  | some newest =>
    match ← table.get product newest with
    | none => .fail (.backend backend (product ++ " " ++ newest ++ " listed but not readable"))
    | some record => return table.model.version record

end Table

/-- The package managers that a table names, in ascending order, each once. -/
def packageManagers (table : String) : Action (List String) := do
  let items ← Action.get (.scan table none)
  let names ← Action.ofExcept (items.mapM fun item =>
    (decode table managerShape item).map (·.textAt "packages"))
  return Dict.distinct names

end ReleaseGate.Store
