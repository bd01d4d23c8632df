import ReleaseGate.Json.Shape
import ReleaseGate.Package.Catalog

namespace ReleaseGate.Package

open Json (Shape)

def Record.shape : Shape :=
  .record "PackageMetadataRecord"
    [("sha1", false, .text), ("sha256", false, .text), ("url", false, .text),
      ("version", false, .text)]

def Record.ofJson (value : Json) : Record where
  sha1 := value.textAt "sha1"
  sha256 := value.textAt "sha256"
  url := value.textAt "url"
  version := value.textAt "version"

def Record.json (record : Record) : Json :=
  .record [("sha1", .text record.sha1), ("sha256", .text record.sha256), ("url", .text record.url),
    ("version", .text record.version)]

/-- A written dictionary; the value of a key is read by `f`. -/
def dictOfJson {α : Type} (f : Json → α) (value : Json) : Dict α :=
  .ofList ((value.record?.getD []).map fun (key, value) => (key, f value))

def Tree.ofJson {α : Type} (f : Json → α) (value : Json) : Tree α :=
  dictOfJson (dictOfJson (dictOfJson f)) value

def dictJson {α : Type} (f : α → Json) (d : Dict α) : Json :=
  .record (d.map fun _ value => f value).entries

def Tree.json {α : Type} (f : α → Json) (tree : Tree α) : Json :=
  dictJson (dictJson (dictJson f)) tree

def Tree.shape (leaf : Shape) : Shape := .map (.map (.map leaf))

/-- A written catalog does not say its layout; it is read as one by platform version. -/
def Catalog.ofJson (value : Json) : Catalog := ⟨.byPlatformVersion, Tree.ofJson Record.ofJson value⟩

def Catalog.json (catalog : Catalog) : Json := Tree.json Record.json catalog.tree

def Catalog.shape : Shape := Tree.shape Record.shape

/-- The catalog a text holds. All of the text is read before its shape is judged. -/
def Catalog.ofText (text : String) : Except Json.Refusal Catalog :=
  (Json.ofWholeText shape text).map ofJson

def Record.ofText (text : String) : Except Json.Refusal Record :=
  (Json.ofText shape text).map ofJson

end ReleaseGate.Package
