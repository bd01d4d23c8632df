import ReleaseGate.Text.Percent

namespace ReleaseGate.Http

/-- Who asks, as an address may say it before the host. -/
structure Login where
  name : String
  secret : Option String
  deriving DecidableEq, Repr

def Login.text (login : Login) : String := login.name ++ (login.secret.map (":" ++ ·)).getD ""

/-- An absolute address. After the host stands a colon and a number, unless it is the number that
the scheme implies. The address of a file has a host, which may be without a name. -/
structure Url where
  scheme : String
  login : Option Login := none
  host : Option String
  path : String
  query : Option String := none
  fragment : Option String := none
  deriving DecidableEq, Repr

namespace Url

/-- The number that a scheme implies after the host. -/
def impliedNumber? (scheme : String) : Option Nat :=
  [("http", 80), ("https", 443), ("ws", 80), ("wss", 443), ("ftp", 21)].lookup scheme

/-- What a scheme asks of the rest: a host with a name, a file, or nothing. -/
inductive Kind where
  | host (implied : Nat)
  | file
  | free
  deriving DecidableEq, Repr

def kind (scheme : String) : Kind :=
  if scheme = "file" then .file
  else
    match impliedNumber? scheme with
    | some implied => .host implied
    | none => .free

/-- Controls and everything outside ASCII are escaped everywhere, and `extra` besides. -/
def escape (extra : String) (cs : List Char) : String :=
  String.ofList (cs.flatMap fun c =>
    if c.toNat < 0x20 || 0x7F ≤ c.toNat || extra.toList.contains c then
      (String.utf8EncodeChar c).flatMap Text.Percent.escaped
    else [c])

def inFragment : String := " \"<>\x60"

def inPath : String := " \"<>\x60#?\x7b\x7d"

def inLogin : String := inPath ++ "/:;=@[\\]^|"

def inQuery : Kind → String
  | .free => " \"<>#"
  | _ => " \"<>#'"

/-- The address without its fragment, which is never sent. -/
def sent (url : Url) : String :=
  let login := (url.login.map (Login.text · ++ "@")).getD ""
  url.scheme ++ ":" ++ (url.host.map ("//" ++ login ++ ·)).getD "" ++ url.path ++
    (url.query.map ("?" ++ ·)).getD ""

def text (url : Url) : String := url.sent ++ (url.fragment.map ("#" ++ ·)).getD ""

/-- What the login says, if it can be read. A secret that cannot be read is none. -/
def credentials? (url : Url) : Option (String × Option String) := do
  let login ← url.login
  let name ← Text.Percent.decode? login.name
  let secret := login.secret.bind Text.Percent.decode?
  if name = "" && secret.isNone then none
  return (name, secret)

/-- The longest address that is sent. -/
def sentLimit : Nat := 65534

/-- An address to which a call can go: its scheme is spoken, its host has no character that is
never sent, and it is not too long. -/
def isReachable (url : Url) : Bool :=
  (url.scheme = "http" || url.scheme = "https") && url.text.utf8ByteSize ≤ sentLimit &&
    !(url.host.getD "").toList.any "\"\x60\x7b\x7d".toList.contains

end Url

end ReleaseGate.Http
