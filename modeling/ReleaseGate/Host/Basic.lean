import ReleaseGate.Files.Tree
import ReleaseGate.Http.Exchange
import ReleaseGate.Instant

namespace ReleaseGate

/-- What a program asks of the machine it runs on: the time, files, a place to print to, another
to report to, and a wire that may or may not bring back a reply. -/
structure Host (m : Type → Type) where
  now : m Instant
  openAt (path : String) : m (Except Files.Fault Files.Opened)
  makePath (path : String) : m (Except Files.Fault Unit)
  append (path : String) (bytes : ByteArray) : m (Except Files.Fault Unit)
  write (path : String) (bytes : ByteArray) : m (Except Files.Fault Unit)
  print (bytes : ByteArray) : m Unit
  report (text : String) : m Unit
  send (message : Http.Message) : m (Option Http.Reply)

namespace Host

variable {m : Type → Type} [Monad m]

/-- The bytes of a file. -/
def read (host : Host m) (path : String) : m (Except Files.Fault ByteArray) := do
  match ← host.openAt path with
  | .ok (.file content) => return .ok content
  | .ok .folder => return .error .isFolder
  | .error fault => return .error fault

/-- The text of a file. -/
def readText (host : Host m) (path : String) : m (Except Files.Fault String) := do
  match ← host.read path with
  | .ok content =>
    match String.fromUTF8? content with
    | some text => return .ok text
    | none => return .error .notText
  | .error fault => return .error fault

end Host

end ReleaseGate
