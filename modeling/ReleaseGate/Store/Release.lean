import ReleaseGate.Package.Written
import ReleaseGate.Store.Basic

namespace ReleaseGate.Store

open Json (Shape)

/-- How the items of a table are read, and where their version stands. -/
structure Model (α : Type) where
  shape : Shape
  ofJson : Json → α
  version : α → String

/-- A file for one target. -/
structure TargetFile where
  architecture : String := ""
  filename : String := ""
  platform : String := ""
  platformVersion : String := ""
  sha1 : String := ""
  sha256 : String := ""
  deriving DecidableEq, Repr

/-- A release that lists its files. -/
structure FileRelease where
  product : String
  version : String
  files : List TargetFile
  deriving DecidableEq, Repr

/-- A file for one package manager. -/
structure ManagedFile where
  filename : String := ""
  sha1 : String := ""
  sha256 : String := ""
  deriving DecidableEq, Repr

/-- A release whose files stand under platform, architecture and package manager. -/
structure ManagedRelease where
  product : String
  version : String
  files : Package.Tree ManagedFile
  deriving DecidableEq, Repr

def releaseShape (title : String) (files : Shape) : Shape :=
  .record title [("product", true, .text), ("version", true, .text), ("metadata", false, files)]

def TargetFile.shape : Shape :=
  .record "MetadataEntry"
    (["architecture", "filename", "platform", "platform_version", "sha1", "sha256"].map
      fun name => (name, false, .text))

def TargetFile.ofJson (value : Json) : TargetFile where
  architecture := value.textAt "architecture"
  filename := value.textAt "filename"
  platform := value.textAt "platform"
  platformVersion := value.textAt "platform_version"
  sha1 := value.textAt "sha1"
  sha256 := value.textAt "sha256"

def ManagedFile.shape : Shape :=
  .record "PackageFile" (["filename", "sha1", "sha256"].map fun name => (name, false, .text))

def ManagedFile.ofJson (value : Json) : ManagedFile where
  filename := value.textAt "filename"
  sha1 := value.textAt "sha1"
  sha256 := value.textAt "sha256"

def FileRelease.model : Model FileRelease where
  shape := releaseShape "ProductDetails" (.list TargetFile.shape)
  ofJson value :=
    { product := value.textAt "product"
      version := value.textAt "version"
      files := (value.listAt "metadata").map TargetFile.ofJson }
  version := FileRelease.version

def ManagedRelease.model : Model ManagedRelease where
  shape := releaseShape "PackageDetails" (Package.Tree.shape ManagedFile.shape)
  ofJson value :=
    { product := value.textAt "product"
      version := value.textAt "version"
      files := Package.Tree.ofJson ManagedFile.ofJson ((value.field? "metadata").getD .null) }
  version := ManagedRelease.version

/-- The name of a package manager. -/
def managerShape : Shape := .record "PackageManagerItem" [("packages", true, .text)]

/-- An item of a table read as one of the given shape. -/
def decode (table : String) (shape : Shape) (item : Json) : Except Failure Json :=
  match Json.reshape shape item with
  | .ok value => .ok value
  | .error refusal =>
    .error (.backend backend ("Failed to decode item of " ++ table ++ ": " ++ refusal.message))

end ReleaseGate.Store
