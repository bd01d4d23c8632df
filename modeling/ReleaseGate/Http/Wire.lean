import ReleaseGate.Http.Exchange

/-! Messages and replies as they go over a connection that carries one of each. -/

namespace ReleaseGate.Http

/-- The name of the host, and the number to knock at. -/
def Url.place (url : Url) : String × Nat :=
  let host := (url.host.getD "").toList
  let (name, rest) := match host with
    | '[' :: inner => Text.cut ']' inner
    | _ => Text.cut ':' host
  let digits := (rest.getD []).filter Char.isDigit
  (String.ofList name, (if digits.isEmpty then none else Address.numeral? 10 digits).getD
    ((impliedNumber? url.scheme).getD 80))

namespace Message

/-- What is asked for at the host. -/
def target (message : Message) : String :=
  message.url.path ++ (message.url.query.map ("?" ++ ·)).getD ""

def head (message : Message) : String :=
  let length := match message.body with
    | some body => [("content-length", toString body.utf8ByteSize)]
    | none => []
  let headers := [("host", message.url.host.getD "")] ++ message.headers ++ length ++
    [("connection", "close")]
  message.method.name ++ " " ++ message.target ++ " HTTP/1.1\r\n" ++
    String.join (headers.map fun (name, value) => name ++ ": " ++ value ++ "\r\n") ++ "\r\n"

def bytes (message : Message) : ByteArray := (message.head ++ message.body.getD "").toUTF8

end Message

namespace Reply

/-- Each byte of a head is a character. -/
def characters (bytes : List UInt8) : List Char := bytes.map fun b => Char.ofNat b.toNat

/-- What stands before the first empty line, and what follows it. -/
def cutHead? : List UInt8 → Option (List UInt8 × List UInt8)
  | [] => none
  | 13 :: 10 :: 13 :: 10 :: rest => some ([], rest)
  | b :: rest => (cutHead? rest).map fun (head, body) => (b :: head, body)

def linesOf (head : List UInt8) : List (List Char) :=
  (Text.pieces '\n' (characters head)).map (Text.dropEndWhile (· == '\r'))

/-- The status stands in the first line, after the name of the format. -/
def statusOf? (line : List Char) : Option Nat :=
  match Text.pieces ' ' line with
  | _ :: status :: _ => Address.numeral? 10 status
  | _ => none

def headerOf? (line : List Char) : Option (String × String) :=
  match Text.cut ':' line with
  | (name, some value) =>
    some (Text.lowerAscii (String.ofList name), String.ofList (Text.trimmed value))
  | _ => none

/-- The bytes of the chunks, and whether the empty chunk that ends them came. -/
def unchunked : Nat → List UInt8 → List UInt8 × Bool
  | 0, _ => ([], false)
  | fuel + 1, bytes =>
    let line := bytes.takeWhile (· ≠ 10)
    let rest := (bytes.drop (line.length + 1))
    let digits := (characters line).takeWhile fun c => (Text.Percent.hexValue? c).isSome
    match Address.numeral? 16 digits with
    | none => ([], false)
    | some size =>
      if digits.isEmpty then ([], false)
      else if size = 0 then ([], true)
      else if rest.length < size then (rest, false)
      else
        let (later, complete) := unchunked fuel (rest.drop (size + 2))
        (rest.take size ++ later, complete)

/-- The body, and whether all of it came. Its length is told by its chunks or by a header, or else
it ends with the connection. -/
def bodyOf (headers : List (String × String)) (bytes : List UInt8) : List UInt8 × Bool :=
  if (headers.lookup "transfer-encoding").map Text.lowerAscii = some "chunked" then
    unchunked bytes.length bytes
  else
    match (headers.lookup "content-length").bind fun text => Address.numeral? 10 text.toList with
    | some length => (bytes.take length, length ≤ bytes.length)
    | none => (bytes, true)

/-- The reply that came over a connection until it was closed. -/
def ofBytes? (bytes : ByteArray) : Option Reply := do
  let (head, rest) ← cutHead? bytes.toList
  let first :: others := linesOf head | none
  let status ← statusOf? first
  let headers := others.filterMap headerOf?
  let (body, complete) := bodyOf headers rest
  return { status, headers, body := ⟨body.toArray⟩, cutShort := !complete }

end Reply

end ReleaseGate.Http
