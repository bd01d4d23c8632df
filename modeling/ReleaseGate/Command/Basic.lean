import ReleaseGate.Backends
import ReleaseGate.Command.Arguments
import ReleaseGate.Gateway
import ReleaseGate.Log.File

namespace ReleaseGate.Command

/-- Why a command ends before its time. -/
inductive Stop where
  | failed (failure : Failure)
  | crashed
  deriving DecidableEq, Repr

/-- Work on a machine that may be stopped. -/
abbrev Work (m : Type → Type) := ExceptT Stop m

variable {m : Type → Type} [Monad m] {α : Type}

def Work.ofExcept (result : Except Failure α) : Work m α :=
  match result with
  | .ok value => pure value
  | .error failure => throw (.failed failure)

/-- Work that cannot stop the command. -/
def Work.plain (work : m α) : Work m α := ExceptT.lift work

/-- Work whose failure stops the command. -/
def Work.lift (work : m (Except Failure α)) : Work m α := do
  Work.ofExcept (← Work.plain work)

def folder : String := "syn-gate"

/-- The settings in a file. -/
def settingsIn (host : Host m) (path : String) : Work m Settings := do
  match ← host.readText path with
  | .ok text => .ofExcept (Settings.ofFile path text)
  | .error fault =>
    throw (.failed (.config ("Failed to read config " ++ path ++ ": " ++ fault.text)))

/-- The settings that were named, or else those of the user, or else none but the defaults. -/
def settings (host : Host m) (home : String) (invocation : Invocation) : Work m Settings := do
  let base ← match invocation.config with
    | some path => settingsIn host path
    | none =>
      let path := Files.join home (".config/" ++ folder ++ "/config.toml")
      match ← host.openAt path with
      | .ok _ => settingsIn host path
      | .error _ => pure {}
  match invocation.persona with
  | none => return base
  | some name =>
    let persona ← .ofExcept (Persona.ofName name)
    return { base with gate := { base.gate with persona } }

/-- A log that was not named is kept with the others, under the time of its start. -/
def logPath (home : String) (settings : Settings) (invocation : Invocation) (start : Instant) :
    String :=
  let logs := settings.gate.logFolder.getD (Files.join home (".local/state/" ++ folder ++ "/logs"))
  invocation.log.getD (Files.join logs ("gate_" ++ start.fileStamp ++ ".log"))

/-- What the settings say is behind the deployment. -/
def backends (host : Host m) (home : String) (settings : Settings) : Work m Backends := do
  let store ← match settings.store.snapshot with
    | none => pure {}
    | some path => .ofExcept (Store.ofFile path (← host.readText path))
  let root := settings.objects.root.getD (Files.join home (".local/share/" ++ folder ++ "/objects"))
  match Objects.Federation.ofSeconds? settings.objects.lifetime with
  | none => throw .crashed
  | some federation => return { settings, store, federation, root }

/-- An action of the gateway. Its entries name the request. -/
def perform (host : Host m) (log : Log.File) (requestId : String) (backends : Backends)
    (action : Action α) : Work m (Except Failure α) := do
  let result ← Work.plain <| action.run (m := ExceptT Backends.Crash m) (backends.answer host)
    (fun entry => ExceptT.lift (log.write host (entry.tagged requestId))) |>.run
  match result with
  | .ok result => return result
  | .error .timeOutOfRange => throw .crashed

def texts (items : List String) : Json := .list (items.map .text)

/-- Every answer is a document on lines of its own. -/
def printJson (host : Host m) (value : Json) : m Unit := host.print (value.pretty ++ "\n").toUTF8

/-- The bytes of a body go to a file or are printed; those before a failure go too. -/
def deliver (host : Host m) (body : Body) (output : Option String) : m (Except Failure Unit) := do
  let written ← match output with
    | some path => host.write path body.bytes
    | none => do
      host.print body.bytes
      pure (.ok ())
  match written, body.failure with
  | .error fault, _ => return .error (.io fault.text)
  | .ok (), some failure => return .error failure
  | .ok (), none => return .ok ()

def hand (host : Host m) (log : Log.File) (output : Option String) :
    Outcome → m (Except Failure Unit)
  | .redirect url => do
    host.print (url ++ "\n").toUTF8
    return .ok ()
  | .metadata record => do
    printJson host record.json
    return .ok ()
  | .stream artifact => do
    for (name, value) in artifact.headers do
      log.write host ⟨.debug, "DOWNLOAD", name ++ ": " ++ value⟩
    match ← deliver host artifact.body output with
    | .error failure => return .error failure
    | .ok () =>
      log.write host
        ⟨.info, "DOWNLOAD", "Streamed " ++ toString artifact.body.bytes.size ++ " bytes"⟩
      return .ok ()

/-- An operation of the gateway with its answer printed. -/
def serve (host : Host m) (log : Log.File) (requestId : String) (gateway : Gateway)
    (backends : Backends) (operation : Operation) : Work m (Except Failure Unit) :=
  let base := gateway.settings.gate.baseUrl
  let printed {α : Type} (json : α → Json) (action : Action α) : Work m (Except Failure Unit) := do
    match ← perform host log requestId backends action with
    | .error failure => return .error failure
    | .ok value =>
      .plain (printJson host (json value))
      return .ok ()
  let about (wording : Wording) (k : Request → Work m (Except Failure Unit)) :
      Work m (Except Failure Unit) :=
    match wording.request with
    | .error failure => return .error failure
    | .ok request => k request
  match operation with
  | .products eol => printed texts (gateway.products eol)
  | .platforms => printed (Package.dictJson Json.text) Gateway.platforms
  | .architectures => printed texts Gateway.architectures
  | .packageManagers => printed texts gateway.packageManagers
  | .latest wording =>
    about wording fun request => printed Json.text (gateway.latestVersion request)
  | .versions wording => about wording fun request => printed texts (gateway.allVersions request)
  | .packages wording =>
    about wording fun request => printed Package.Catalog.json (gateway.packages base request)
  | .metadata wording =>
    about wording fun request => printed Package.Record.json (gateway.metadata base request)
  | .fileName wording => about wording fun request => printed Json.text (gateway.fileName request)
  | .download wording output =>
    about wording fun request => do
      match ← perform host log requestId backends (gateway.download base request) with
      | .error failure => return .error failure
      | .ok outcome => .plain (hand host log output outcome)

def completion : Except Failure Unit → Log.Entry
  | .ok () => ⟨.info, "COMPLETE", "Request served."⟩
  | .error failure => ⟨.warn, "COMPLETE", "Request failed: " ++ failure.message⟩

/-- One request, from its settings to the end of its log. -/
def carryOut (host : Host m) (home : String) (invocation : Invocation) : Work m Unit := do
  let settings ← settings host home invocation
  let log : Log.File :=
    ⟨some (logPath home settings invocation (← host.now)), invocation.verbose⟩
  .lift (log.start host)
  .plain (log.write host
    ⟨.info, "INIT", "Syn-Gate Core awakening as " ++ settings.gate.persona.name ++ " persona."⟩)
  let requestId := "cli-" ++ toString (← host.now).milliseconds
  let backends ← backends host home settings
  let gateway : Gateway := ⟨settings, settings.portal.downloadUrl⟩
  let result ← serve host log requestId gateway backends invocation.operation
  .plain (log.write host (completion result))
  .lift (log.finish host)
  .ofExcept result

def usage : String :=
  "Usage: Syn-Gate-Core [--config PATH] [--log PATH] [--persona PERSONA] [--verbose] COMMAND\n"

/-- The line about a failure, which tells no more than the caller may know. -/
def failureLine (failure : Failure) : String :=
  "[Syn-Gate-Core] " ++ toString failure.answer.status ++ " " ++ failure.answer.message ++ "\n"

/-- The command with the given arguments; the answer is the exit code. -/
def run (host : Host m) (home : String) (arguments : List String) : m Nat := do
  match Arguments.ofList arguments with
  | .version =>
    host.print "Syn-Gate-Core 0.4.0\n".toUTF8
    return 0
  | .help =>
    host.print usage.toUTF8
    return 0
  | .wrong =>
    host.report usage
    return 2
  | .invocation invocation =>
    match ← (carryOut host home invocation).run with
    | .ok () => return 0
    | .error (.failed failure) =>
      host.report (failureLine failure)
      return failure.exitCode
    | .error .crashed => return 101

end ReleaseGate.Command
