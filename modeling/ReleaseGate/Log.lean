namespace ReleaseGate.Log

inductive Level where
  | info
  | warn
  | error
  | debug
  deriving DecidableEq, Repr

def Level.name : Level → String
  | info => "INFO"
  | warn => "WARN"
  | error => "ERROR"
  | debug => "DEBUG"

structure Entry where
  level : Level
  code : String
  message : String
  deriving DecidableEq, Repr

namespace Entry

/-- The entry of a request names it. -/
def tagged (requestId : String) (entry : Entry) : Entry :=
  { entry with message := "req=" ++ requestId ++ " " ++ entry.message }

def text (entry : Entry) : String :=
  "[" ++ entry.level.name ++ "] [" ++ entry.code ++ "] " ++ entry.message

/-- The line of the entry, made at the time that `stamp` tells. -/
def line (stamp : String) (entry : Entry) : String := stamp ++ " " ++ entry.text

end Entry

/-- The first four characters of a secret; none of one that has no more. -/
def redact (secret : String) : String :=
  if secret = "" then ""
  else
    let front := secret.toList.take 4
    if front.length = secret.toList.length then "****" else String.ofList front ++ "****"

end ReleaseGate.Log
