namespace ReleaseGate

/-- A step of the licensed platform download. -/
inductive Step where
  | licenseLookup
  | customerSearch
  | customerNotFound
  | channelMissing
  | artifactFetch
  deriving DecidableEq, Repr

namespace Step

def name : Step → String
  | licenseLookup => "LicenseLookup"
  | customerSearch => "CustomerSearch"
  | customerNotFound => "CustomerNotFound"
  | channelMissing => "ChannelMissing"
  | artifactFetch => "ArtifactFetch"

/-- What a caller is told when the step fails. An empty search reads like a failed one. -/
def message : Step → String
  | licenseLookup => "error while fetching customer email for license"
  | customerSearch | customerNotFound => "error while searching customer in customer portal"
  | channelMissing => "error while building download url from customer portal"
  | artifactFetch => "error while downloading from customer portal"

end Step

/-- Why an operation gave no answer. -/
inductive Failure where
  | config (detail : String)
  | backend (name detail : String)
  | responded (status : Nat) (message : String)
  | notFound (status : Nat) (message : String)
  | validation (field message : String)
  | noCandidates
  | noneVisible
  | versionNotSupported (version : String)
  | unsupported (message : String)
  | entitlement (step : Step)
  | serialization (detail : String)
  | io (detail : String)
  deriving DecidableEq, Repr

/-- The status and the words a caller is given. -/
structure PublicFailure where
  status : Nat
  message : String
  deriving DecidableEq, Repr

namespace Failure

/-- Asking for something that is not there is the caller's mistake. -/
def missing (message : String) : Failure := .notFound 400 message

/-- The full text, for logs and operators. -/
def message : Failure → String
  | config detail => "Configuration: " ++ detail
  | backend name detail => "Backend " ++ name ++ ": " ++ detail
  | responded status message => "Upstream responded " ++ toString status ++ ": " ++ message
  | notFound _ message => message
  | validation _ message => message
  | noCandidates => "No versions available to resolve against"
  | noneVisible => "No versions found for this product/mode"
  | versionNotSupported version =>
    "the requested version " ++ version ++ " is not supported on the selected persona or channel"
  | unsupported message => message
  | entitlement step => "Entitlement: " ++ step.message
  | serialization detail => "Serialization: " ++ detail
  | io detail => detail

/-- A mistake of the caller is 400, a fault behind the gateway 500; a status that came from
elsewhere passes through. -/
def status : Failure → Nat
  | responded status _ | notFound status _ => status
  | validation .. | noCandidates | noneVisible | versionNotSupported _ | unsupported _ => 400
  | config _ | backend .. | entitlement _ | serialization _ | io _ => 500

/-- The details of a backend, of an entitlement and of the file system stay inside. -/
def answer (failure : Failure) : PublicFailure where
  status := failure.status
  message :=
    match failure with
    | backend name _ => "Error while fetching data from " ++ name
    | entitlement step => step.message
    | io _ => "Internal I/O failure"
    | other => other.message

/-- One exit code for each kind of failure. -/
def exitCode : Failure → Nat
  | config _ => 20
  | backend .. => 30
  | serialization _ => 31
  | responded .. => 32
  | entitlement _ => 33
  | validation .. | noCandidates | noneVisible | versionNotSupported _ | unsupported _ => 40
  | io _ => 41
  | notFound .. => 44

end Failure

end ReleaseGate
