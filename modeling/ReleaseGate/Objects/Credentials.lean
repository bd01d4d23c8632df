import ReleaseGate.Failure
import ReleaseGate.Instant
import ReleaseGate.Log
import ReleaseGate.Sha256
import ReleaseGate.Text.Blank
import ReleaseGate.Text.Quoted

namespace ReleaseGate.Objects

/-- A client session in one region. -/
structure Session where
  region : String
  deriving DecidableEq, Repr

/-- Keys that are good until a point in time. -/
structure Credentials where
  accessKeyId : String
  secretAccessKey : String
  sessionToken : String
  expiresAt : Instant
  deriving DecidableEq

namespace Credentials

def expired (credentials : Credentials) (now : Instant) : Bool :=
  credentials.expiresAt.nanoseconds ≤ now.nanoseconds

/-- The credentials in one line, without their secrets. -/
def describe (credentials : Credentials) : String :=
  "ScopedCredentials \x7b access_key_id: " ++ Text.quoted (Log.redact credentials.accessKeyId) ++
    ", secret_access_key: \"****\", session_token: \"****\", expires_at: " ++
    credentials.expiresAt.text ++ " \x7d"

end Credentials

/-- A federation that makes up credentials of a fixed lifetime in seconds. -/
structure Federation where
  lifetime : Int
  deriving DecidableEq, Repr

namespace Federation

def backend : String := "credential federation"

/-- The longest lifetime whose milliseconds fit into 64 bits. -/
def longest : Int := 9223372036854775

/-- A lifetime is at least a second; one that is too long gives no federation. -/
def ofSeconds? (seconds : Int) : Option Federation :=
  if max seconds 1 ≤ longest then some ⟨max seconds 1⟩ else none

def session (region : String) : Except Failure Session :=
  if Text.blank region then .error (.backend backend "session requires a region")
  else .ok ⟨region⟩

def isRole (role : String) : Bool := "arn:".toList.isPrefixOf role.toList

/-- The nanoseconds of a time. Those that do not fit into 64 bits count as none. -/
def clock (now : Instant) : Int :=
  if -9223372036854775808 ≤ now.nanoseconds ∧ now.nanoseconds ≤ 9223372036854775807 then
    now.nanoseconds
  else 0

/-- The digest of session, role and time, as a token. -/
def token (session : Session) (role : String) (now : Instant) : String :=
  Sha256.hex (session.region ++ "|" ++ role ++ "|" ++ toString (clock now)).toUTF8.toList

/-- Credentials cut from a token. -/
def credentials (token : String) (expiresAt : Instant) : Credentials where
  accessKeyId := "LSIA" ++ String.ofList ((token.toList.take 16).map Char.toUpper)
  secretAccessKey := String.ofList ((token.toList.drop 16).take 40)
  sessionToken := token
  expiresAt := expiresAt

/-- The credentials of a role. There are none when their end lies beyond the calendar. -/
def assumeRole (federation : Federation) (session : Session) (role : String) (now : Instant) :
    Except Failure (Option Credentials) :=
  if isRole role then
    let expiresAt := now.plusSeconds federation.lifetime
    if expiresAt.inCalendar then .ok (some (credentials (token session role now) expiresAt))
    else .ok none
  else .error (.backend backend "role identifier is not an ARN")

end Federation

end ReleaseGate.Objects
