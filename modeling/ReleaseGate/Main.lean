import ReleaseGate.Command.Basic
import ReleaseGate.Http.Wire
import Std.Async.DNS
import Std.Async.TCP
import Std.Time.DateTime.Timestamp

/-! The command on a real machine. -/

namespace ReleaseGate.System

/-- What the system refused. -/
def faultOf : IO.Error → Files.Fault
  | .noFileOrDirectory .. => .missing
  | .alreadyExists .. => .exists
  | .inappropriateType _ code _ => if code = 21 then .isFolder else .notFolder
  | other => .other (toString other)

def attempt {α : Type} (work : IO α) : IO (Except Files.Fault α) := do
  try return .ok (← work)
  catch fault => return .error (faultOf fault)

def openFile (path : String) : IO (Except Files.Fault Files.Opened) := do
  match ← attempt (IO.FS.readBinFile path) with
  | .ok content => return .ok (.file content)
  | .error .isFolder => return .ok .folder
  | .error fault => return .error fault

def appendTo (path : String) (bytes : ByteArray) : IO Unit := do
  let handle ← IO.FS.Handle.mk path .append
  handle.write bytes
  handle.flush

/-- The place of a host with the given number. -/
def addressAt (number : UInt16) : Std.Net.IPAddr → Std.Net.SocketAddress
  | .v4 addr => .v4 ⟨addr, number⟩
  | .v6 addr => .v6 ⟨addr, number⟩

/-- What comes in, in so many pieces at most, until the other side closes or breaks off. -/
def receive (socket : Std.Async.TCP.Socket.Client) : Nat → ByteArray → Std.Async.Async ByteArray
  | 0, got => return got
  | pieces + 1, got => do
    let piece ← try socket.recv? 65536 catch _ => pure none
    match piece with
    | some bytes => receive socket pieces (got ++ bytes)
    | none => return got

/-- What comes back when a message is sent on a connection of its own. -/
def exchange (message : Http.Message) : IO (Option Http.Reply) := do
  try
    let (name, number) := message.url.place
    let addresses ← (Std.Async.DNS.getAddrInfo name "http").block
    match addresses[0]? with
    | none => return none
    | some address =>
      let socket ← Std.Async.TCP.Socket.Client.mk
      (socket.connect (addressAt number.toUInt16 address)).block
      (socket.send message.bytes).block
      return Http.Reply.ofBytes? (← (receive socket 1048576 .empty).block)
  catch _ => return none

/-- The machine this program runs on. -/
def host : Host IO where
  now := return ⟨(← Std.Time.Timestamp.now).toNanosecondsSinceUnixEpoch.toInt⟩
  openAt := openFile
  makePath path := attempt (if path = "" then pure () else IO.FS.createDirAll path)
  append path bytes := attempt (appendTo path bytes)
  write path bytes := attempt (IO.FS.writeBinFile path bytes)
  print bytes := do
    let out ← IO.getStdout
    out.write bytes
    out.flush
  report := IO.eprint
  send := exchange

end ReleaseGate.System

def main (arguments : List String) : IO UInt32 := do
  let home := (← IO.getEnv "HOME").getD ""
  return (← ReleaseGate.Command.run ReleaseGate.System.host home arguments).toUInt32
