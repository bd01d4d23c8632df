import ReleaseGate.Host.Basic

namespace ReleaseGate

/-- A machine in memory: its files, what was printed and reported on it, and what it sent. -/
structure Machine where
  files : Files.Tree := {}
  printed : ByteArray := .empty
  reported : String := ""
  sent : List Http.Message := []

namespace Machine

/-- What becomes of a message: it finds no one, or someone who says nothing, or a reply. -/
inductive Reception where
  | unreachable
  | silence
  | reply (reply : Http.Reply)

/-- The files after a change, if it can be made. -/
def change (f : Files.Tree → Except Files.Fault Files.Tree) :
    StateM Machine (Except Files.Fault Unit) := do
  let machine ← get
  match f machine.files with
  | .ok files =>
    set { machine with files }
    return .ok ()
  | .error fault => return .error fault

/-- A message that reaches someone counts as sent. -/
def send (network : Http.Message → Reception) (message : Http.Message) :
    StateM Machine (Option Http.Reply) := do
  match network message with
  | .unreachable => return none
  | .silence =>
    record
    return none
  | .reply reply =>
    record
    return some reply
where
  record : StateM Machine Unit :=
    modify fun machine => { machine with sent := machine.sent ++ [message] }

/-- The machine at a time that stands still, on a network that behaves as it is told. -/
def host (now : Instant) (network : Http.Message → Reception) : Host (StateM Machine) where
  now := pure now
  openAt path := do return (← get).files.openAt path
  makePath path := change (·.makePath path)
  append path bytes := change (·.modify path (· ++ bytes))
  write path bytes := change (·.modify path fun _ => bytes)
  print bytes := modify fun machine => { machine with printed := machine.printed ++ bytes }
  report text := modify fun machine => { machine with reported := machine.reported ++ text }
  send := send network

end Machine

end ReleaseGate
