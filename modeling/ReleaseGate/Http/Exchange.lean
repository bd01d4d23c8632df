import ReleaseGate.Failure
import ReleaseGate.Http.Url
import ReleaseGate.Json.Shape
import ReleaseGate.Text.Base64
import ReleaseGate.Text.Utf8

namespace ReleaseGate.Http

inductive Method where
  | get
  | post
  deriving DecidableEq, Repr

def Method.name : Method → String
  | get => "GET"
  | post => "POST"

/-- A call as a client words it. -/
structure Call where
  method : Method := .get
  url : String
  headers : List (String × String)
  body : Option String := none
  deriving DecidableEq, Repr

/-- A call as it goes out. -/
structure Message where
  method : Method
  url : Url
  headers : List (String × String)
  body : Option String
  deriving DecidableEq, Repr

/-- What came back, with a body that is not compressed. A reply is cut short when its body ends
before it should. -/
structure Reply where
  status : Nat
  headers : List (String × String)
  body : ByteArray
  cutShort : Bool := false

/-- Why a call has no reply. -/
inductive Fault where
  | malformed
  | unfit (url : String)
  | unanswered (url : String)
  deriving DecidableEq, Repr

def Fault.text : Fault → String
  | malformed => "builder error"
  | unfit url => "builder error for url (" ++ url ++ ")"
  | unanswered url => "error sending request for url (" ++ url ++ ")"

/-- What is said of a body that cannot be read. -/
def unreadable : String := "error decoding response body"

/-- A header value has no controls but the tab. -/
def isHeaderValue (value : String) : Bool :=
  value.toList.all fun c => (0x20 ≤ c.toNat && c.toNat ≠ 0x7F) || c == '\t'

/-- How the client calls itself. -/
def agent : String := "Syn-Gate-Core/0.4.0"

/-- The header by which a login is sent. -/
def basic (name : String) (secret : Option String) : String × String :=
  let bytes := (name ++ ":" ++ secret.getD "").toUTF8
  ("authorization", "Basic " ++ String.ofList (Text.Base64.encode bytes.toList))

/-- A call can go out when its address can be read and names a host, its headers can be written, and
the host can be reached. A login that can be read goes into a header. -/
def Call.message (call : Call) : Except Fault Message :=
  match Url.ofText? call.url with
  | none => .error .malformed
  | some url =>
    if url.host.getD "" = "" then .error (.unfit url.text)
    else if ! call.headers.all fun (_, value) => isHeaderValue value then .error .malformed
    else
      let (url, headers) := match url.credentials? with
        | some (name, secret) => ({ url with login := none }, basic name secret :: call.headers)
        | none => (url, call.headers)
      if url.isReachable then .ok ⟨call.method, url, ("user-agent", agent) :: headers, call.body⟩
      else .error (.unfit url.text)

namespace Reply

def succeeded (reply : Reply) : Bool := 200 ≤ reply.status && reply.status < 300

/-- Replies of these two kinds never have a body. -/
def bodiless (reply : Reply) : Bool := reply.status == 204 || reply.status == 304

/-- The body as far as it came. -/
def content (reply : Reply) : ByteArray := if reply.bodiless then .empty else reply.body

def interrupted (reply : Reply) : Bool := reply.cutShort && !reply.bodiless

/-- The body read as UTF-8, whatever its headers say of it. -/
def decoded (reply : Reply) : List (Option Char) :=
  Text.Utf8.read reply.content.data.toList

/-- The body as a text, without a mark of byte order before it; one that was cut short says
nothing. -/
def text (reply : Reply) : String :=
  if reply.interrupted then ""
  else
    match reply.decoded.map (·.getD '\ufffd') with
    | '\ufeff' :: rest => String.ofList rest
    | cs => String.ofList cs

/-- How a document is spelled. Bytes that spell nothing do no harm in a string that is passed over
and are refused everywhere else, as is half of a surrogate pair behind a letter that cannot be
escaped. -/
def spelling : Option Char → List Char
  | some c => [c]
  | none => "x\\udc00".toList

/-- The body as a document of the given shape. -/
def json? (reply : Reply) (shape : Json.Shape) : Option Json :=
  if reply.interrupted then none
  else (Json.ofText shape (String.ofList (reply.decoded.flatMap spelling))).toOption

/-- A refusal with what the service said about it. -/
def refusal (reply : Reply) : Failure := .responded reply.status reply.text

end Reply

/-- A call, and what its reply, or the lack of one, comes to. -/
structure Exchange (α : Type) where
  call : Call
  outcome : Except Fault Reply → Except Failure α

namespace Exchange

variable {α : Type}

/-- An exchange with a service that answers with documents. The document of a reply that is not
refused is read by `read`. -/
def document (call : Call) (lost : Fault → Failure) (refused : Reply → Option Failure)
    (unread : String → Failure) (shape : Json.Shape) (read : Json → Except Failure α) :
    Exchange α where
  call := call
  outcome
    | .error fault => .error (lost fault)
    | .ok reply =>
      match refused reply with
      | some failure => .error failure
      | none =>
        match reply.json? shape with
        | some value => read value
        | none => .error (unread unreadable)

/-- The exchange carried out by `send`, which speaks nothing but plain HTTP. -/
def run {m : Type → Type} [Monad m] (send : Message → m (Option Reply)) (exchange : Exchange α) :
    m (Except Failure α) :=
  match exchange.call.message with
  | .error fault => pure (exchange.outcome (.error fault))
  | .ok message => do
    let reply ← if message.url.scheme = "http" then send message else pure none
    match reply with
    | some reply => return exchange.outcome (.ok reply)
    | none => return exchange.outcome (.error (.unanswered message.url.text))

end Exchange

end ReleaseGate.Http
