import ReleaseGate.Failure
import ReleaseGate.Text.Pieces
import ReleaseGate.Text.Quoted

namespace ReleaseGate

/-- The bytes of a body as far as they came, and what broke it off. -/
structure Body where
  bytes : ByteArray
  failure : Option Failure := none

/-- A file on its way to the caller, with the headers to send along. Header names are in small
letters; one may stand more than once. -/
structure Artifact where
  status : Nat
  headers : List (String × String) := []
  body : Body

namespace Artifact

/-- The first value of a header. -/
def header? (artifact : Artifact) (name : String) : Option String :=
  artifact.headers.lookup (Text.lowerAscii name)

/-- All values of the header give way to one at the end. -/
def setHeader (artifact : Artifact) (name value : String) : Artifact :=
  { artifact with
    headers := artifact.headers.filter (·.1 ≠ Text.lowerAscii name) ++
      [(Text.lowerAscii name, value)] }

/-- A header that is absent or empty is set. -/
def defaultHeader (artifact : Artifact) (name value : String) : Artifact :=
  if (artifact.header? name).getD "" = "" then artifact.setHeader name value else artifact

/-- The artifact in one line, without its body. -/
def describe (artifact : Artifact) : String :=
  let headers := artifact.headers.map fun (name, value) =>
    "(" ++ Text.quoted name ++ ", " ++ Text.quoted value ++ ")"
  "ArtifactStream \x7b status: " ++ toString artifact.status ++ ", headers: [" ++
    ", ".intercalate headers ++ "], .. \x7d"

end Artifact

end ReleaseGate
