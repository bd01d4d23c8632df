import ReleaseGate.Artifact
import ReleaseGate.Files.Tree
import ReleaseGate.Objects.Credentials

namespace ReleaseGate.Objects

/-- An object with what its store says about it. -/
structure Stored where
  contentType : Option String
  contentLength : Option Nat
  contentDisposition : Option String
  body : Body

def backend : String := "object store"

def optionText {α : Type} (f : α → String) : Option α → String
  | some a => "Some(" ++ f a ++ ")"
  | none => "None"

/-- The object in one line, without its body. -/
def Stored.describe (object : Stored) : String :=
  "StoredObject \x7b content_type: " ++ optionText Text.quoted object.contentType ++
    ", content_length: " ++ optionText toString object.contentLength ++
    ", content_disposition: " ++ optionText Text.quoted object.contentDisposition ++ ", .. \x7d"

namespace Local

/-- The place of an object below the root. The way to it from the root has nothing but names. -/
def path (root bucket key : String) : Except Failure String :=
  let relative := Files.join bucket key
  if (Files.components relative).all (·.isName) then
    .ok (Files.join root relative)
  else .error (.validation "key" ("invalid object key " ++ key))

/-- The letters after the last dot tell the type. -/
def contentType (key : String) : String :=
  match (Text.pieces '.' (Text.lowerAscii key).toList).getLast?.map String.ofList with
  | some "zip" => "application/zip"
  | some "gz" | some "tgz" => "application/gzip"
  | some "rpm" => "application/x-rpm"
  | some "deb" => "application/vnd.debian.binary-package"
  | some "msi" => "application/x-msi"
  | some "json" => "application/json"
  | _ => "application/octet-stream"

/-- Where to look for an object, for credentials that are still good. -/
def locate (root : String) (now : Instant) (credentials : Credentials) (bucket key : String) :
    Except Failure String :=
  if credentials.expired now then .error (.backend backend "credentials expired")
  else path root bucket key

/-- A folder can be opened and measured, but not read. -/
def folderSize : Nat := 4096

/-- The object that was found where it was looked for. -/
def stored (bucket key : String) : Except Files.Fault Files.Opened → Except Failure Stored
  | .ok (.file content) =>
    .ok ⟨some (contentType key), some content.size, none, ⟨content, none⟩⟩
  | .ok .folder =>
    .ok ⟨some (contentType key), some folderSize, none,
      ⟨.empty, some (.io Files.Fault.isFolder.text)⟩⟩
  | .error .missing => .error (.missing ("object " ++ key ++ " not found in " ++ bucket))
  | .error fault => .error (.backend backend ("failed to open " ++ key ++ ": " ++ fault.text))

end Local

end ReleaseGate.Objects
