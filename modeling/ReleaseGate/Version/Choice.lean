import ReleaseGate.Request

namespace ReleaseGate.Version

/-- A version answers a request for itself and for what it extends past a dot, so `16` is answered
by `16.2.5` and not by `160.0.0`. -/
def answers (requested version : String) : Bool :=
  match requested.toList.isPrefixOf? version.toList with
  | some [] => true
  | some (c :: _) => c == '.'
  | none => false

/-- The newest candidate that answers the request; the candidates ascend. -/
def choose (requested : String) (candidates : List String) : Except Failure String :=
  if wantsLatest requested then
    match candidates.getLast? with
    | some version => .ok version
    | none => .error .noCandidates
  else
    match candidates.reverse.find? (answers requested) with
    | some version => .ok version
    | none => .error (.versionNotSupported requested)

end ReleaseGate.Version
