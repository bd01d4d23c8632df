import ReleaseGate.Failure
import ReleaseGate.Host.Basic
import ReleaseGate.Log
import ReleaseGate.Sha256

namespace ReleaseGate.Log

/-- A log, and the file it is kept in if it has one. A verbose log is reported as well; warnings and
errors always are. -/
structure File where
  path : Option String := none
  verbose : Bool := false
  deriving DecidableEq, Repr

namespace File

variable {m : Type → Type} [Monad m]

/-- The folder and the file are made if they are not there. -/
def start (host : Host m) (file : File) : m (Except Failure Unit) := do
  match file.path with
  | none => return .ok ()
  | some path =>
    let parent := (Files.parent? path).getD ""
    match ← host.makePath parent with
    | .error fault =>
      return .error (.config ("Failed to create log directory " ++ parent ++ ": " ++ fault.text))
    | .ok () =>
      match ← host.append path .empty with
      | .error fault =>
        return .error (.config ("Failed to open log file " ++ path ++ ": " ++ fault.text))
      | .ok () => return .ok ()

def reports (file : File) (entry : Entry) : Bool :=
  file.verbose || entry.level == .error || entry.level == .warn

/-- What is reported when an entry does not reach the file. -/
def lost : Entry := ⟨.error, "LOGGER", "Failed to write to log file"⟩

/-- An entry is added with the time it is made at. -/
def write (host : Host m) (file : File) (entry : Entry) : m Unit := do
  let stamp := (← host.now).stamp
  let line := entry.line stamp ++ "\n"
  if file.reports entry then host.report line
  if let some path := file.path then
    if let .error _ ← host.append path line.toUTF8 then host.report (lost.line stamp ++ "\n")

/-- The line about a file that says its digest. -/
def sealLine (path : String) (content : ByteArray) : String :=
  Sha256.hex content.toList ++ "  " ++ Files.fileName path ++ "\n"

/-- The digest of the file is written beside it. -/
def finish (host : Host m) (file : File) : m (Except Failure Unit) := do
  match file.path with
  | none => return .ok ()
  | some path =>
    match ← host.read path with
    | .error fault => return .error (.io fault.text)
    | .ok content =>
      match ← host.write (path ++ ".hash") (sealLine path content).toUTF8 with
      | .error fault => return .error (.io fault.text)
      | .ok () => return .ok ()

end File

end ReleaseGate.Log
