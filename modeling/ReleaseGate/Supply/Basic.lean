import ReleaseGate.Action.Basic

namespace ReleaseGate

/-- What a download comes to: a place to go to, the artifact itself, or its metadata. -/
inductive Outcome where
  | redirect (url : String)
  | stream (artifact : Artifact)
  | metadata (record : Package.Record)

/-- Where the packages of a product come from. The versions ascend. -/
structure Supply where
  name : String
  latest : Request → Action String
  versions : Request → Action (List String)
  packages : Request → Action Package.Catalog
  metadata : Request → Action Package.Record
  fileName : Request → Action String
  download : Request → Action Outcome

namespace Supply

def unknownProduct : Failure :=
  .missing "Product information not found. Please check the input parameters"

/-- A record that names no file is a fault of the source, not of the caller. -/
def unnamedFile : Failure := .notFound 500 "Download filename is empty"

/-- The value that was found. -/
def found {α : Type} : Option α → Action α
  | some value => pure value
  | none => .fail unknownProduct

/-- The name of a file, which must not be empty. -/
def named (name : String) : Action String := if name = "" then .fail unnamedFile else pure name

end Supply

end ReleaseGate
