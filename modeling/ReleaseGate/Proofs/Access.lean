import ReleaseGate.Proofs.Operation
import ReleaseGate.Proofs.Resolution

/-! Which versions an operation serves. -/

namespace ReleaseGate.Gateway

/-- What the supply is called for once a version is resolved. -/
inductive Method where
  | packages
  | metadata
  | fileName
  | download
  deriving DecidableEq, Repr

namespace Method

abbrev Answer : Method → Type
  | packages => Package.Catalog
  | metadata => Package.Record
  | fileName => String
  | download => Outcome

def call (supply : Supply) : (method : Method) → Request → Action method.Answer
  | packages => supply.packages
  | metadata => supply.metadata
  | fileName => supply.fileName
  | download => supply.download

end Method

/-- How an operation serves a version: the request it resolves, what it calls the supply for, and
what it makes of the answer. -/
structure Plan (operation : Operation) where
  asked : Request
  method : Method
  finish : Request → method.Answer → Action operation.Answer

/-- The plan of an operation that serves versions. A download that is marked so is one of
metadata. -/
def Operation.plan? (base : String) (request : Request) : (operation : Operation) →
    Option (Plan operation)
  | .latestVersion | .allVersions => none
  | .packages => some {
      asked := request
      method := .packages
      finish := fun resolved catalog => do
        .info "PACKAGES" (resolved.product ++ " " ++ resolved.version ++ " -> " ++
          toString catalog.size ++ " packages")
        return catalog.relinked resolved base }
  | .metadata => some {
      asked := request
      method := .metadata
      finish := fun resolved record => return linked base resolved record }
  | .fileName => some {
      asked := request
      method := .fileName
      finish := fun _ name => return name }
  | .download =>
    match request.takeMetadataMark? with
    | some asked => some {
        asked := asked
        method := .metadata
        finish := fun resolved record => return .metadata (linked base resolved record) }
    | none => some {
        asked := request
        method := .download
        finish := announced }

variable (gateway : Gateway)

/-- What a request has to pass before any version is looked up. The license is looked at for a
download alone. -/
def checks (method : Method) (asked : Request) : Action Unit := do
  if method = .download then gateway.licensed asked
  gateway.checkEndOfLife asked

/-- Why none of the listed versions is served. -/
inductive Unserved (asked : Request) (versions : List String) : Failure → Prop
  | noCandidates : versions = [] → Unserved asked versions .noCandidates
  | noneVisible :
      versions ≠ [] → gateway.visible asked versions = [] → Unserved asked versions .noneVisible
  | notSupported :
      Version.Unanswered asked.version (gateway.visible asked versions) →
      Unserved asked versions (.versionNotSupported asked.version)

/-- A version that may be served: one that the persona may have, chosen for the request. -/
structure Permitted (asked : Request) (versions : List String) (version : String) : Prop where
  chosen : Version.Chosen asked.version (gateway.visible asked versions) version
  supported : gateway.persona = .commercial → asked.eol = false →
    Product.endOfLife asked.product version = false
  openSource : gateway.persona = .opensource → asked.product ≠ "habitat" →
    Product.openSource asked.product version = true

def resolvedNote (asked : Request) (version : String) : Event :=
  .noted ⟨.debug, "RESOLVE", asked.product ++ " " ++ Text.quoted asked.version ++
    " resolved to " ++ version ++ " via " ++ (gateway.supply asked).name⟩

/-- How an operation goes that serves versions, from the checks over the listing to the call. -/
inductive Course (operation : Operation) (asked : Request) (method : Method) :
    List Event → Except Failure operation.Answer → Prop
  /-- A check refuses the request; no version is looked up. -/
  | refused {checked : List Event} {failure : Failure} :
      (gateway.checks method asked).Runs checked (.error failure) →
      Course operation asked method (checked ++ [operation.report failure]) (.error failure)
  /-- The supply cannot list its versions. -/
  | unlisted {checked listing : List Event} {failure : Failure} :
      (gateway.checks method asked).Runs checked (.ok ()) →
      ((gateway.supply asked).versions asked).Runs listing (.error failure) →
      Course operation asked method (checked ++ listing ++ [operation.report failure])
        (.error failure)
  /-- None of the versions may be served; the supply is not called again. -/
  | unserved {checked listing : List Event} {versions : List String} {failure : Failure} :
      (gateway.checks method asked).Runs checked (.ok ()) →
      ((gateway.supply asked).versions asked).Runs listing (.ok versions) →
      gateway.Unserved asked versions failure →
      Course operation asked method (checked ++ listing ++ [operation.report failure])
        (.error failure)
  /-- The supply is called with a permitted version, and after it nobody is asked. -/
  | served {checked listing called after : List Event} {versions : List String} {version : String}
      {answer : Except Failure method.Answer} {result : Except Failure operation.Answer} :
      (gateway.checks method asked).Runs checked (.ok ()) →
      ((gateway.supply asked).versions asked).Runs listing (.ok versions) →
      (∀ failure, ¬ gateway.Unserved asked versions failure) →
      gateway.Permitted asked versions version →
      (method.call (gateway.supply asked) { asked with version }).Runs called answer →
      (∀ event ∈ after, event.query? = none) →
      (∀ failure, answer = .error failure → result = .error failure) →
      Course operation asked method
        (checked ++ listing ++ gateway.resolvedNote asked version :: called ++ after) result

variable {gateway}

/-- When nothing is picked, it is known why. -/
theorem unserved_of_picked {asked : Request} {versions : List String} {failure : Failure}
    (h : gateway.picked asked versions = .error failure) :
    gateway.Unserved asked versions failure := by
  unfold picked at h
  split at h
  · rename_i empty
    cases h
    exact .noCandidates (by simpa using empty)
  · rename_i nonempty
    split at h
    · rename_i hidden
      cases h
      exact .noneVisible (by simpa using nonempty) (by simpa using hidden)
    · rename_i shown
      obtain ⟨unanswered, rfl⟩ := Version.unanswered_of_choose (by simpa using shown) h
      exact .notSupported unanswered

theorem permitted_of_picked {asked : Request} {versions : List String} {version : String}
    (h : gateway.picked asked versions = .ok version) :
    gateway.Permitted asked versions version := by
  have chosen := Version.chosen_of_choose (choose_of_picked h)
  exact ⟨chosen, visible_supported chosen.candidate, visible_openSource chosen.candidate⟩

/-- When there is a permitted version, nothing keeps it from being served. -/
theorem Permitted.not_unserved {asked : Request} {versions : List String} {version : String}
    (h : gateway.Permitted asked versions version) (failure : Failure) :
    ¬ gateway.Unserved asked versions failure := by
  have member := h.chosen.candidate
  intro unserved
  cases unserved with
  | noCandidates empty =>
    rw [empty] at member
    cases mem_of_visible member
  | noneVisible _ hidden =>
    rw [hidden] at member
    cases member
  | notSupported unanswered => exact h.chosen.answered unanswered

/-- The action asks nothing and ends well. -/
def Quiet {α : Type} (action : Action α) : Prop :=
  ∀ events result, action.Runs events result →
    (∀ event ∈ events, event.query? = none) ∧ ∃ value, result = .ok value

theorem quiet_pure {α : Type} (value : α) : Quiet (pure value) := by
  intro events result run
  obtain ⟨rfl, rfl⟩ := Action.runs_pure_iff.mp run
  exact ⟨by simp, value, rfl⟩

theorem quiet_note {α : Type} {entry : Log.Entry} {next : Action α} (h : Quiet next) :
    Quiet (.note entry next) := by
  intro events result run
  obtain ⟨rest, rfl, last⟩ := Action.runs_note_iff.mp run
  obtain ⟨silent, value, rfl⟩ := h rest _ last
  refine ⟨?_, value, rfl⟩
  intro event hevent
  obtain rfl | hevent := List.mem_cons.mp hevent
  · rfl
  · exact silent event hevent

theorem quiet_finish {base : String} {request : Request} {operation : Operation}
    {plan : Plan operation} (planned : operation.plan? base request = some plan)
    (resolved : Request) (answer : plan.method.Answer) : Quiet (plan.finish resolved answer) := by
  cases operation with
  | latestVersion => cases planned
  | allVersions => cases planned
  | packages =>
    cases planned
    exact quiet_note (quiet_pure _)
  | metadata =>
    cases planned
    exact quiet_pure _
  | fileName =>
    cases planned
    exact quiet_pure _
  | download =>
    cases marked : request.takeMetadataMark? with
    | some unmarked =>
      simp only [Operation.plan?, marked] at planned
      cases planned
      exact quiet_pure _
    | none =>
      simp only [Operation.plan?, marked] at planned
      cases planned
      cases answer with
      | redirect url => exact quiet_note (quiet_pure _)
      | stream artifact => exact quiet_pure _
      | metadata record => exact quiet_pure _

/-- Every operation that serves versions checks the request, resolves it and calls the supply. -/
theorem perform_eq (gateway : Gateway) {base : String} {request : Request} {operation : Operation}
    {plan : Plan operation} (planned : operation.plan? base request = some plan) :
    gateway.perform base request operation = reported operation.name (do
      gateway.checks plan.method plan.asked
      let versions ← (gateway.supply plan.asked).versions plan.asked
      let version ← .ofExcept (gateway.picked plan.asked versions)
      .debug "RESOLVE" (plan.asked.product ++ " " ++ Text.quoted plan.asked.version ++
        " resolved to " ++ version ++ " via " ++ (gateway.supply plan.asked).name)
      let answer ← plan.method.call (gateway.supply plan.asked) { plan.asked with version }
      plan.finish { plan.asked with version } answer) := by
  cases operation with
  | latestVersion => cases planned
  | allVersions => cases planned
  | packages =>
    cases planned
    simp only [perform, packages, resolved, resolve_eq, checks, bind_assoc, pure_bind]
    rfl
  | metadata =>
    cases planned
    simp only [perform, metadata, record, resolved, resolve_eq, checks, bind_assoc, pure_bind]
    rfl
  | fileName =>
    cases planned
    simp only [perform, fileName, resolved, resolve_eq, checks, bind_assoc, pure_bind, bind_pure]
    rfl
  | download =>
    simp only [perform, download]
    cases marked : request.takeMetadataMark? with
    | some unmarked =>
      simp only [Operation.plan?, marked] at planned
      cases planned
      simp only [record, resolved, resolve_eq, checks, bind_assoc, pure_bind]
      rfl
    | none =>
      simp only [Operation.plan?, marked] at planned
      cases planned
      simp only [artifact_eq, resolved, resolve_eq, checks, bind_assoc, pure_bind, if_true]
      rfl

/-- An operation that serves a version calls the supply with a permitted one. When there is none, it
fails as the listing makes it fail, and the supply is not called again. -/
theorem serves_permitted {base : String} {request : Request} {operation : Operation}
    {plan : Plan operation} {events : List Event} {result : Except Failure operation.Answer}
    (planned : operation.plan? base request = some plan)
    (run : (gateway.perform base request operation).Runs events result) :
    gateway.Course operation plan.asked plan.method events result := by
  rw [perform_eq gateway planned, runs_reported_iff] at run
  obtain ⟨_, rfl, inner⟩ := run
  obtain ⟨failure, rfl, refused⟩ | ⟨_, checked, _, rfl, passed, afterChecks⟩ :=
    Action.runs_bind_iff.mp inner
  · exact .refused refused
  obtain ⟨failure, rfl, unlisted⟩ | ⟨versions, listing, _, rfl, listed, afterListing⟩ :=
    Action.runs_bind_iff.mp afterChecks
  · exact .unlisted passed unlisted
  obtain ⟨failure, rfl, unpicked⟩ | ⟨version, _, _, rfl, picked, afterChoice⟩ :=
    Action.runs_bind_iff.mp afterListing
  · obtain ⟨rfl, same⟩ := Action.runs_ofExcept_iff.mp unpicked
    rw [List.append_nil]
    exact .unserved passed listed (unserved_of_picked same.symm)
  obtain ⟨rfl, same⟩ := Action.runs_ofExcept_iff.mp picked
  have permitted := permitted_of_picked same.symm
  rw [Action.debug_bind] at afterChoice
  obtain ⟨calling, rfl, call⟩ := Action.runs_note_iff.mp afterChoice
  obtain ⟨failure, rfl, failed⟩ | ⟨answer, called, after, rfl, answered, finishing⟩ :=
    Action.runs_bind_iff.mp call
  · have silent : ∀ event ∈ [operation.report failure], event.query? = none := by
      simp [Operation.report, Event.query?]
    have course : gateway.Course operation plan.asked plan.method (checked ++ listing ++
        gateway.resolvedNote plan.asked version :: calling ++ [operation.report failure])
        (.error failure) :=
      .served passed listed permitted.not_unserved permitted failed silent
        (fun _ same => by cases same; rfl)
    simpa [Operation.reports, resolvedNote] using course
  · obtain ⟨silent, value, rfl⟩ := quiet_finish planned _ _ _ _ finishing
    have course : gateway.Course operation plan.asked plan.method (checked ++ listing ++
        gateway.resolvedNote plan.asked version :: called ++ after) (.ok value) :=
      .served passed listed permitted.not_unserved permitted answered silent
        (fun _ same => by cases same)
    simpa [Operation.reports, resolvedNote] using course

/-- A request for a release of chef `17`, without more. -/
def chef17 : Request := { channel := .stable, product := "chef", version := "17" }

/-- Of the versions that extend `17` the newest is served. -/
theorem packages_of_chef17 : (plain .commercial).Course .packages chef17 .packages
    [.noted ⟨.debug, "UPSTREAM", "fetching versions for chef on stable"⟩,
      .asked (.versions .stable "chef") (.ok ["14.15.6", "17.9.1", "17.10.0", "18.2.7"]),
      .noted ⟨.debug, "RESOLVE", "chef \"17\" resolved to 17.10.0 via upstream-proxy"⟩,
      .asked (.packages .stable "chef" "17.10.0") (.ok .empty),
      .noted ⟨.info, "PACKAGES", "chef 17.10.0 -> 0 packages"⟩] (.ok {}) := by
  have planned : Operation.plan? "" chef17 .packages = some _ := rfl
  exact serves_permitted planned (.note (.ask _ (.note (.ask _ (.note (.done _))))))

end ReleaseGate.Gateway
