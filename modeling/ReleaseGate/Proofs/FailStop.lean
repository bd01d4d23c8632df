import ReleaseGate.Proofs.Delivery
import ReleaseGate.Proofs.Entitlement

/-! A question that fails ends the work. Nobody is asked after it, and its failure is what the work
comes to; of a licensed download only the step is told. -/

namespace ReleaseGate

namespace Query

/-- The step of a licensed download that the question is. -/
def step? : Query → Option Step
  | customerEmail _ => some .licenseLookup
  | customers _ => some .customerSearch
  | portalDownload .. => some .artifactFetch
  | _ => none

/-- What the work comes to when the question fails. -/
def told (query : Query) (failure : Failure) : Failure :=
  match query.step? with
  | some step => .entitlement step
  | none => failure

end Query

namespace Action

variable {α β : Type}

/-- The entries are logged, and then the work fails. -/
def ending (entries : List Log.Entry) (failure : Failure) : Action α :=
  entries.foldr note (fail failure)

theorem ending_bind (entries : List Log.Entry) (failure : Failure) (f : α → Action β) :
    (ending entries failure).bind f = ending entries failure := by
  induction entries with
  | nil => rfl
  | cons entry rest ih => exact congrArg (note entry) ih

theorem ending_noting (entries : List Log.Entry) (failure : Failure) (code : String)
    (message : Failure → String) :
    (ending entries failure : Action α).noting code message =
      ending (entries ++ [⟨.error, code, message failure⟩]) failure := by
  induction entries with
  | nil => rfl
  | cons entry rest ih => exact congrArg (note entry) ih

theorem runs_ending_iff {entries : List Log.Entry} {failure : Failure} {events : List Event}
    {result : Except Failure α} :
    Runs (ending entries failure) events result ↔
      events = entries.map .noted ∧ result = .error failure := by
  induction entries generalizing events with
  | nil => exact runs_fail_iff
  | cons entry rest ih =>
    change Runs (note entry (ending rest failure)) events result ↔ _
    rw [runs_note_iff]
    constructor
    · rintro ⟨_, rfl, run⟩
      obtain ⟨rfl, rfl⟩ := ih.mp run
      exact ⟨rfl, rfl⟩
    · rintro ⟨rfl, rfl⟩
      exact ⟨_, rfl, ih.mpr ⟨rfl, rfl⟩⟩

/-- After a question that fails there are entries in the log and no more. -/
inductive FailStop : Action α → Prop
  | done (result : Except Failure α) : FailStop (.done result)
  | note {entry : Log.Entry} {next : Action α} : FailStop next → FailStop (.note entry next)
  | ask {query : Query} {next : Except Failure query.Answer → Action α}
      (notes : List (Failure → Log.Entry)) :
      (∀ failure, next (.error failure) = ending (notes.map (· failure)) (query.told failure)) →
      (∀ value, FailStop (next (.ok value))) → FailStop (.ask query next)

namespace FailStop

theorem ending (entries : List Log.Entry) (failure : Failure) :
    (Action.ending entries failure : Action α).FailStop := by
  induction entries with
  | nil => exact .done _
  | cons entry rest ih => exact .note ih

theorem get {query : Query} (free : query.step? = none) : (Action.get query).FailStop := by
  refine .ask [] (fun failure => ?_) fun _ => .done _
  simp only [Query.told, free]
  rfl

theorem bind {action : Action α} {f : α → Action β} (h : action.FailStop)
    (after : ∀ value, (f value).FailStop) : (action >>= f).FailStop := by
  rw [bind_eq]
  induction h with
  | done result =>
    cases result with
    | ok value => exact after value
    | error failure => exact .done _
  | note _ ih => exact .note ih
  | ask notes fails _ ih =>
    refine .ask notes (fun failure => ?_) ih
    rw [fails, ending_bind]

theorem noting {action : Action α} {code : String} {message : Failure → String}
    (h : action.FailStop) : (action.noting code message).FailStop := by
  induction h with
  | done result =>
    cases result with
    | ok value => exact .done _
    | error failure => exact .note (.done _)
  | note _ ih => exact .note ih
  | @ask query next notes fails _ ih =>
    -- The note on the way out tells what the question's failure has become.
    let last (failure : Failure) : Log.Entry := ⟨.error, code, message (query.told failure)⟩
    refine .ask (notes ++ [last]) (fun failure => ?_) ih
    rw [List.map_append]
    exact (congrArg (Action.noting code message) (fails failure)).trans (ending_noting ..)

/-- When a question of a run fails, it is the last, and the run ends with what its failure is told
as. -/
theorem of_runs {action : Action α} (h : action.FailStop) {events : List Event}
    {result : Except Failure α} (run : action.Runs events result) {before after : List Event}
    {query : Query} {failure : Failure}
    (split : events = before ++ .asked query (.error failure) :: after) :
    (∀ event ∈ after, event.query? = none) ∧ result = .error (query.told failure) := by
  induction run generalizing before with
  | done result => simp at split
  | note _ ih =>
    cases h with
    | note h =>
      obtain ⟨rfl, same⟩ | ⟨before, rfl, rest⟩ := List.cons_eq_append_iff.mp split
      · cases same
      · exact ih h rest
  | @ask given next _ _ answer run ih =>
    cases h with
    | ask notes fails later =>
      obtain ⟨rfl, same⟩ | ⟨before, rfl, rest⟩ := List.cons_eq_append_iff.mp split
      · cases same
        rw [fails] at run
        obtain ⟨rfl, rfl⟩ := runs_ending_iff.mp run
        exact ⟨by simp [Event.query?], rfl⟩
      · cases answer with
        | ok value => exact ih (later value) rest
        | error failure =>
          -- A question failed before: what is left of the run is an ending, and stops too.
          rw [fails] at ih
          exact ih (.ending _ _) rest

/-- The same, of the questions alone. -/
theorem of_calls {action : Action α} (h : action.FailStop) {calls : List Event}
    {result : Except Failure α} (run : action.Calls calls result) {before after : List Event}
    {query : Query} {failure : Failure}
    (split : calls = before ++ .asked query (.error failure) :: after) :
    after = [] ∧ result = .error (query.told failure) := by
  obtain ⟨events, run, rfl⟩ := run
  obtain ⟨first, rest, rfl, rfl, later⟩ := List.filter_eq_append_iff.mp split
  obtain ⟨quiet, last, rfl, -, -, rfl⟩ := List.filter_eq_cons_iff.mp later
  obtain ⟨silent, told⟩ := h.of_runs run (List.append_assoc first quiet _).symm
  refine ⟨List.filter_eq_nil_iff.mpr fun event inside => ?_, told⟩
  simp [silent event inside]

end FailStop

end Action

namespace Store.Table

variable {α : Type} (table : Table α) (product : String)

theorem failStop_get (version : String) : (table.get product version).FailStop := by
  unfold get
  apply Action.FailStop.bind (.get rfl)
  intro item
  cases item with
  | none => exact .done _
  | some item => exact (Action.FailStop.done _).bind fun _ => .done _

theorem failStop_versions : (table.versions product).FailStop :=
  (Action.FailStop.get rfl).bind fun _ => .done _

theorem failStop_latest : (table.latest product).FailStop := by
  unfold latest
  apply (failStop_versions table product).bind
  intro versions
  split
  · exact .done _
  · apply (failStop_get table product _).bind
    intro record
    cases record <;> exact .done _

end Store.Table

namespace Supply

/-- Whatever the supply is asked for, a question that fails ends it. -/
structure FailStop (supply : Supply) : Prop where
  latest : ∀ request, (supply.latest request).FailStop
  versions : ∀ request, (supply.versions request).FailStop
  packages : ∀ request, (supply.packages request).FailStop
  metadata : ∀ request, (supply.metadata request).FailStop
  fileName : ∀ request, (supply.fileName request).FailStop
  download : ∀ request, (supply.download request).FailStop

theorem failStop_found {α : Type} (value : Option α) : (found value).FailStop := by
  cases value <;> exact .done _

theorem failStop_named (name : String) : (named name).FailStop := by
  unfold named
  split <;> exact .done _

namespace Records

variable (table : Store.Table Store.FileRelease) (request : Request)

theorem failStop_release : (release table request).FailStop :=
  (table.failStop_get _ _).bind failStop_found

theorem failStop_file : (file table request).FailStop :=
  (Action.FailStop.done _).bind fun _ =>
    (failStop_release table request).bind fun _ => failStop_found _

theorem failStop_fileName : (fileName table request).FailStop :=
  (failStop_file table request).bind fun file => failStop_named file.filename

theorem failStop_download (root : String) : (download table root request).FailStop := by
  apply (failStop_file table request).bind
  intro file
  split
  · exact .done _
  · exact .note (.done _)

theorem failStop_supply (root : String) : (supply table root).FailStop where
  latest request := (table.failStop_latest request.product).noting
  versions request := (table.failStop_versions request.product).bind fun _ => .done _
  packages request := (failStop_release table request).bind fun _ => .done _
  metadata request := (failStop_file table request).bind fun _ => .done _
  fileName := failStop_fileName table
  download request := failStop_download table request root

end Records

namespace Bucket

variable (table : Store.Table Store.ManagedRelease) (settings : ObjectSettings) (request : Request)

theorem failStop_release : (release table request).FailStop :=
  (table.failStop_get _ _).bind failStop_found

theorem failStop_file : (file table request).FailStop :=
  (Action.FailStop.done _).bind fun _ =>
    (failStop_release table request).bind fun _ => failStop_found _

theorem failStop_fileName : (fileName table request).FailStop :=
  (failStop_file table request).bind fun file => failStop_named file.filename

theorem failStop_fetch (filename : String) : (fetch settings request filename).FailStop := by
  apply Action.FailStop.note
  apply (Action.FailStop.noting (.get rfl)).bind
  intro session
  apply (Action.FailStop.noting (.get rfl)).bind
  intro credentials
  exact (Action.FailStop.noting (.get rfl)).bind fun _ => .done _

theorem failStop_download : (download table settings request).FailStop := by
  apply (Action.FailStop.noting (.done _)).bind
  intro _
  apply (failStop_fileName table request).bind
  intro filename
  exact .note ((failStop_fetch settings request filename).bind fun _ => .done _)

theorem failStop_supply : (supply table settings).FailStop where
  latest request := (table.failStop_latest request.product).noting
  versions request := (table.failStop_versions request.product).bind fun _ => .done _
  packages request := (failStop_release table request).bind fun _ => .done _
  metadata request := (failStop_file table request).bind fun _ => .done _
  fileName := failStop_fileName table
  download := failStop_download table settings

end Bucket

namespace Platform

theorem failStop_guard (persona : Persona) : (guard persona).FailStop := by
  unfold guard
  split <;> exact .done _

theorem failStop_step {s : Step} {query : Query} (own : query.step? = some s) :
    (step s (.get query)).FailStop := by
  let message (failure : Failure) : String := s.name ++ " failed: " ++ failure.message
  refine .ask [(⟨.error, code, message ·⟩)] (fun failure => ?_) fun _ => .done _
  simp only [Query.told, own]
  rfl

theorem failStop_refuse {α : Type} (s : Step) (message : String) :
    (refuse s message : Action α).FailStop :=
  .note (.done _)

theorem failStop_hand (root : String) (customers : List Portal.Customer) :
    (hand root customers).FailStop := by
  cases customers with
  | nil => exact failStop_refuse _ _
  | cons customer others =>
    dsimp only [hand]
    cases customer.downloadUrl? root with
    | none => exact failStop_refuse _ _
    | some url => exact .note ((failStop_step rfl).bind fun _ => .done _)

theorem failStop_fetch (root license : String) : (fetch root license).FailStop := by
  rw [fetch_eq]
  apply (failStop_step rfl).bind
  intro email
  exact .note ((failStop_step rfl).bind (failStop_hand root))

theorem failStop_download (root : String) (request : Request) :
    (download root request).FailStop := by
  unfold download
  split
  · exact .done _
  · exact .note ((failStop_fetch root request.licenseId).bind fun _ => .done _)

theorem failStop_supply (persona : Persona) (root : String) : (supply persona root).FailStop where
  latest _ := (failStop_guard persona).bind fun _ => .done _
  versions _ := (failStop_guard persona).bind fun _ => .done _
  packages _ := (failStop_guard persona).bind fun _ => .done _
  metadata _ := (failStop_guard persona).bind fun _ => .done _
  fileName _ := (failStop_guard persona).bind fun _ => .done _
  download request := (failStop_guard persona).bind fun _ => failStop_download root request

end Platform

namespace Remote

theorem failStop_metadata (request : Request) : (metadata request).FailStop :=
  (Action.FailStop.done _).bind fun _ => .get rfl

theorem failStop_download (request : Request) : (download request).FailStop := by
  apply (failStop_metadata request).bind
  intro record
  split
  · exact .done _
  · split
    · exact .note (.done _)
    · exact .done _

theorem failStop_supply : supply.FailStop where
  latest _ := .get rfl
  versions _ := .note (.get rfl)
  packages _ := (Action.FailStop.get rfl).bind fun _ => .done _
  metadata := failStop_metadata
  fileName request := (failStop_metadata request).bind fun _ => failStop_named _
  download := failStop_download

end Remote

end Supply

namespace Gateway

variable (gateway : Gateway) (request : Request)

theorem failStop_supply : (gateway.supply request).FailStop := by
  unfold supply Supply.choose
  split
  · exact Supply.Records.failStop_supply _ _
  · split
    · exact Supply.Platform.failStop_supply _ _
    · split
      · exact Supply.Bucket.failStop_supply _ _
      · exact Supply.Remote.failStop_supply

theorem failStop_checkEndOfLife : (gateway.checkEndOfLife request).FailStop := by
  unfold checkEndOfLife
  split
  · exact .done _
  · split <;> exact .done _

theorem failStop_licensed : (gateway.licensed request).FailStop := by
  unfold licensed
  split
  · apply (Action.FailStop.get rfl).bind
    intro valid
    cases valid <;> exact .note (.done _)
  · exact .done _

theorem failStop_announced (resolved : Request) (outcome : Outcome) :
    (announced resolved outcome).FailStop := by
  cases outcome with
  | redirect url => exact .note (.done _)
  | stream artifact => exact .done _
  | metadata record => exact .done _

theorem failStop_resolve {supply : Supply} (h : supply.FailStop) :
    (gateway.resolve supply request).FailStop := by
  rw [resolve_eq]
  apply (gateway.failStop_checkEndOfLife request).bind
  intro _
  apply (h.versions request).bind
  intro versions
  exact (Action.FailStop.done _).bind fun _ => .note (.done _)

theorem failStop_resolved {supply : Supply} (h : supply.FailStop) :
    (gateway.resolved supply request).FailStop :=
  (gateway.failStop_resolve request h).bind fun _ => .done _

theorem failStop_record (base : String) : (gateway.record base request).FailStop := by
  have supplied := gateway.failStop_supply request
  apply (gateway.failStop_resolved request supplied).bind
  intro resolved
  exact (supplied.metadata resolved).bind fun _ => .done _

theorem failStop_artifact : (gateway.artifact request).FailStop := by
  have supplied := gateway.failStop_supply request
  rw [artifact_eq]
  apply (gateway.failStop_licensed request).bind
  intro _
  apply (gateway.failStop_resolved request supplied).bind
  intro resolved
  exact (supplied.download resolved).bind (failStop_announced resolved)

theorem failStop_perform (base : String) (operation : Operation) :
    (gateway.perform base request operation).FailStop := by
  have supplied := gateway.failStop_supply request
  have resolves := gateway.failStop_resolved request supplied
  cases operation with
  | latestVersion =>
    apply Action.FailStop.noting
    apply (supplied.latest request).bind
    intro latest
    split
    · exact .done _
    · exact gateway.failStop_resolve _ supplied
  | allVersions =>
    apply Action.FailStop.noting
    apply (supplied.versions request).bind
    intro versions
    dsimp only
    split <;> exact .done _
  | packages =>
    apply Action.FailStop.noting
    apply resolves.bind
    intro resolved
    exact (supplied.packages resolved).bind fun _ => .note (.done _)
  | metadata => exact (gateway.failStop_record request base).noting
  | fileName => exact (resolves.bind supplied.fileName).noting
  | download =>
    apply Action.FailStop.noting
    cases request.takeMetadataMark? with
    | some unmarked => exact (gateway.failStop_record unmarked base).bind fun _ => .done _
    | none => exact gateway.failStop_artifact request

theorem failStop_carryOut (task : Task) : (gateway.carryOut task).FailStop := by
  cases task with
  | request operation base request => exact gateway.failStop_perform request base operation
  | products eol => exact Action.FailStop.noting ((Action.FailStop.get rfl).bind fun _ => .done _)
  | platforms => exact Action.FailStop.noting ((Action.FailStop.get rfl).bind fun _ => .done _)
  | architectures => exact Action.FailStop.noting (.get rfl)
  | packageManagers =>
    apply Action.FailStop.noting
    apply (Action.FailStop.get rfl).bind
    intro items
    exact (Action.FailStop.done _).bind fun _ => .done _

/-- When a service fails a gateway, whatever it was asked to do, nobody is asked any more, and the
caller is given that failure, or the step of the licensed download that failed. -/
theorem failure_ends_task {gateway : Gateway} {task : Task} {events : List Event}
    {result : Except Failure task.Answer} (run : (gateway.carryOut task).Runs events result)
    {before after : List Event} {query : Query} {failure : Failure}
    (split : events = before ++ .asked query (.error failure) :: after) :
    (∀ event ∈ after, event.query? = none) ∧ result = .error (query.told failure) :=
  (gateway.failStop_carryOut task).of_runs run split

/-- What comes before the customers of a license are searched for. -/
def beforeSearch : List Event :=
  beforeLookup ++ [.asked (.customerEmail "tmns-1234") (.ok "ops@acme"),
    .noted ⟨.debug, "PLATFORM_DOWNLOAD", "customer email resolved"⟩]

/-- The portal cannot be reached. -/
def unreached : Failure := .backend "customer portal" "connection refused"

/-- What comes after the customers could not be searched for. -/
def afterSearch : List Event :=
  [.noted ⟨.error, "PLATFORM_DOWNLOAD",
      "CustomerSearch failed: Backend customer portal: connection refused"⟩,
    Operation.download.report (.entitlement .customerSearch)]

/-- A search for customers that fails is told as that step, and nothing is downloaded. -/
theorem search_ends_download :
    ((plain .commercial).carryOut (.request .download "" (bundle "tmns-1234"))).Runs
        (beforeSearch ++ .asked (.customers "ops@acme") (.error unreached) :: afterSearch)
        (.error (.entitlement .customerSearch)) ∧
      (∀ event ∈ afterSearch, event.query? = none) ∧
      (Query.customers "ops@acme").told unreached = .entitlement .customerSearch := by
  have run : ((plain .commercial).carryOut (.request .download "" (bundle "tmns-1234"))).Runs
      (beforeSearch ++ .asked (.customers "ops@acme") (.error unreached) :: afterSearch)
      (.error (.entitlement .customerSearch)) :=
    .ask _ (.note (.note (.note (.ask _ (.note (.ask _ (.note (.note (.done _)))))))))
  obtain ⟨quiet, told⟩ := failure_ends_task run rfl
  exact ⟨run, quiet, (Except.error.inj told).symm⟩

end Gateway

end ReleaseGate
