import ReleaseGate.Gateway
import ReleaseGate.Proofs.Run

namespace ReleaseGate.Gateway

/-- A deployment with all settings as they come but the persona. -/
def plain (persona : Persona) : Gateway := ⟨{ gate := { persona } }, ""⟩

/-- What a gateway may be asked to do with a request. -/
inductive Operation where
  | latestVersion
  | allVersions
  | packages
  | metadata
  | fileName
  | download
  deriving DecidableEq, Repr

namespace Operation

/-- What the operation gives, if nothing fails. -/
abbrev Answer : Operation → Type
  | latestVersion | fileName => String
  | allVersions => List String
  | packages => Package.Catalog
  | metadata => Package.Record
  | download => Outcome

end Operation

/-- The operation on a request, with links to the gateway at `base`. -/
def perform (gateway : Gateway) (base : String) (request : Request) :
    (operation : Operation) → Action operation.Answer
  | .latestVersion => gateway.latestVersion request
  | .allVersions => gateway.allVersions request
  | .packages => gateway.packages base request
  | .metadata => gateway.metadata base request
  | .fileName => gateway.fileName request
  | .download => gateway.download base request

/-- A license that has to be checked is checked. -/
def licensed (gateway : Gateway) (request : Request) : Action Unit :=
  if gateway.needsLicenseCheck request then checkLicense request.licenseId else pure ()

/-- A redirect is logged before it is handed out. -/
def announced (resolved : Request) (outcome : Outcome) : Action Outcome := do
  if let .redirect url := outcome then
    .info "DOWNLOAD" (resolved.product ++ " " ++ resolved.version ++ " redirect " ++ url)
  return outcome

theorem artifact_eq (gateway : Gateway) (request : Request) :
    gateway.artifact request = (do
      gateway.licensed request
      let resolved ← gateway.resolved (gateway.supply request) request
      announced resolved (← (gateway.supply request).download resolved)) := by
  unfold artifact licensed
  cases needed : gateway.needsLicenseCheck request with
  | true => rfl
  | false =>
    simp only [Bool.false_eq_true, if_false, pure_bind]
    rfl

namespace Operation

def name : Operation → String
  | latestVersion => "latest_version"
  | allVersions => "all_versions"
  | packages => "packages"
  | metadata => "metadata"
  | fileName => "file_name"
  | download => "download"

/-- What the log says when the operation fails. -/
def report (operation : Operation) (failure : Failure) : Event :=
  .noted ⟨.error, "GATEWAY", operation.name ++ " failed (" ++ toString failure.status ++ "): " ++
    failure.message⟩

/-- What is logged about how an operation ends: its failure, or nothing. -/
def reports {α : Type} (operation : Operation) : Except Failure α → List Event
  | .ok _ => []
  | .error failure => [operation.report failure]

end Operation

/-- The report of an operation comes last. -/
theorem play_reported {α : Type} (services : Services) (operation : Operation) (action : Action α)
    (before : services.State × List Event) :
    services.play (reported operation.name action) before =
      let played := services.play action before
      (played.1, played.2.1, played.2.2 ++ operation.reports played.1) := by
  unfold reported Action.noting
  rw [Action.orElse_eq_followed, Services.play_followed]
  cases services.play action before with
  | mk result after =>
    cases result with
    | ok value =>
      simp only [Operation.reports, List.append_nil]
      rfl
    | error failure => rfl

theorem runs_reported_iff {α : Type} {operation : Operation} {action : Action α}
    {events : List Event} {result : Except Failure α} :
    (reported operation.name action).Runs events result ↔
      ∃ first, events = first ++ operation.reports result ∧ action.Runs first result := by
  unfold reported Action.noting
  simp only [Action.runs_orElse_iff, Action.error_bind]
  constructor
  · rintro (⟨value, rfl, run⟩ | ⟨failure, first, rest, rfl, run, ended⟩)
    · exact ⟨events, by simp [Operation.reports], run⟩
    · obtain ⟨last, rfl, failed⟩ := Action.runs_note_iff.mp ended
      obtain ⟨rfl, rfl⟩ := Action.runs_fail_iff.mp failed
      exact ⟨first, rfl, run⟩
  · rintro ⟨first, rfl, run⟩
    cases result with
    | ok value => exact .inl ⟨value, rfl, by simpa [Operation.reports] using run⟩
    | error failure => exact .inr ⟨failure, first, _, rfl, run, .note (.done _)⟩

/-- Everything a gateway may be asked to do. -/
inductive Task where
  | request (operation : Operation) (base : String) (request : Request)
  | products (eol : Bool)
  | platforms
  | architectures
  | packageManagers
  deriving DecidableEq, Repr

/-- What the task gives, if nothing fails. -/
abbrev Task.Answer : Task → Type
  | request operation .. => operation.Answer
  | products _ | architectures | packageManagers => List String
  | platforms => Dict String

def carryOut (gateway : Gateway) : (task : Task) → Action task.Answer
  | .request operation base request => gateway.perform base request operation
  | .products eol => gateway.products eol
  | .platforms => Gateway.platforms
  | .architectures => Gateway.architectures
  | .packageManagers => gateway.packageManagers

end ReleaseGate.Gateway
