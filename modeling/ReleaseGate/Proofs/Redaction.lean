import ReleaseGate.Proofs.Licenses
import ReleaseGate.Proofs.Percent

/-! How much of a license id the log tells. -/

namespace ReleaseGate.Gateway

variable {gateway : Gateway} {one other : String}

/-- The resolved request, and the place where the remote catalog has the artifact. -/
def located (gateway : Gateway) (request : Request) : Action (Request × String) := do
  let resolved ← gateway.resolved Supply.Remote.supply request
  let record ← Supply.Remote.metadata resolved
  if record.url = "" then .fail Supply.unnamedFile
  else
    if resolved.licenseId ≠ "" then
      .debug Supply.Remote.code ("redirect carries license " ++ Log.redact resolved.licenseId)
    return (resolved, Supply.Remote.withLicense record.url resolved.licenseId)

def redirectEntry (resolved : Request) (url : String) : Log.Entry :=
  ⟨.info, "DOWNLOAD", resolved.product ++ " " ++ resolved.version ++ " redirect " ++ url⟩

theorem artifact_eq_located {request : Request} (h : gateway.FromCatalog request.product) :
    gateway.artifact request = (do
      let (resolved, url) ← gateway.located request
      .note (redirectEntry resolved url) (pure (.redirect url))) := by
  have free : gateway.licensed request = pure () := by
    simp [licensed, needsLicenseCheck, h.2.1]
  rw [artifact_eq, free, supply_fromCatalog h, pure_bind]
  unfold located
  rw [bind_assoc]
  congr 1
  funext resolved
  simp only [Supply.Remote.supply, Supply.Remote.download, bind_assoc]
  congr 1
  funext record
  split
  · rfl
  · split <;> rfl

/-- What is located differs in the license that the place carries. -/
def SamePlace (one other : String) (found found' : Request × String) : Prop :=
  ∃ (bare : Request) (url : String), found = (bare.under one, Supply.Remote.withLicense url one) ∧
    found' = (bare.under other, Supply.Remote.withLicense url other)

theorem located_alike (h : Log.Alike one other) (request : Request) :
    Likeness.butLicense.Actions (SamePlace one other) (gateway.located (request.under one))
      (gateway.located (request.under other)) := by
  have heedless : Supply.Remote.supply.Heedless :=
    ⟨fun _ _ => rfl, fun _ _ => rfl, fun _ _ => rfl, fun _ _ => rfl, fun _ _ => rfl⟩
  unfold located
  apply (resolved_alike heedless request).bind
  rintro _ _ ⟨bare, rfl, rfl⟩
  apply (Likeness.butLicense.same (Supply.Remote.metadata bare) fun _ => rfl).bind
  rintro record _ rfl
  split
  · exact .done (.error rfl)
  · simp only [Request.under, ne_eq, h.ne_empty.1, h.ne_empty.2, not_false_eq_true, if_true,
      h.redact_eq]
    exact .note rfl (.done (.ok ⟨bare, record.url, rfl, rfl⟩))

theorem withLicense_injective {url : String} (h : one ≠ "") (h' : other ≠ "")
    (same : Supply.Remote.withLicense url one = Supply.Remote.withLicense url other) :
    one = other := by
  unfold Supply.Remote.withLicense at same
  rw [if_neg h, if_neg h', String.append_right_inj] at same
  exact Text.Percent.encode_injective same

/-- What a redirect leaves in the log last. -/
def closing : Except Failure (Request × String) → List Event
  | .ok (resolved, url) => [.noted (redirectEntry resolved url)]
  | .error failure => [Operation.download.report failure]

theorem play_redirect (services : Services) (base : String) {request : Request}
    (marked : request.takeMetadataMark? = none) (remote : gateway.FromCatalog request.product)
    (start : services.State) :
    services.result (gateway.perform base request .download) start =
        (services.result (gateway.located request) start).map (.redirect ·.2) ∧
      services.log (gateway.perform base request .download) start =
        services.log (gateway.located request) start ++
          Event.entries (closing (services.result (gateway.located request) start)) := by
  have same : gateway.perform base request .download =
      reported Operation.download.name (gateway.artifact request) := by
    simp only [perform, download, marked]
    rfl
  unfold Services.result Services.log
  rw [same, play_reported, artifact_eq_located remote]
  cases found : services.play (gateway.located request) (start, []) with
  | mk result after =>
    cases result with
    | ok place =>
      rw [services.play_bind_ok (congrArg Prod.fst found), found]
      obtain ⟨state, events⟩ := after
      refine ⟨rfl, ?_⟩
      have logged : Event.entries (events ++ [.noted (redirectEntry place.1 place.2)]) ++ [] =
          Event.entries events ++ Event.entries (closing (.ok place)) := by
        rw [List.append_nil, Event.entries_append]
        rfl
      rw [Event.entries_append]
      exact logged
    | error failure =>
      rw [services.play_bind_error (congrArg Prod.fst found), found]
      exact ⟨rfl, Event.entries_append _ _⟩

/-- Two actions that are alike leave the same log and end alike. -/
theorem play_alike {services : Services} (blind : services.Blind) {α β : Type}
    {values : α → β → Prop} {action : Action α} {action' : Action β}
    (alike : Likeness.butLicense.Actions values action action') (start : services.State) :
    Likeness.butLicense.Results values (services.result action start)
      (services.result action' start) ∧
    services.log action start = services.log action' start := by
  have played := alike.play (Likeness.butLicense.companies blind) (rfl : start = start) .nil
  refine ⟨played.1, ?_⟩
  have entries := Likeness.entries_alike played.2.2
  simp only [Likeness.butLicense, List.forall₂_eq_eq_eq] at entries
  exact entries

/-- The entries that close two redirects to one place differ, as the place carries the license. -/
theorem closing_injective (h : Log.Alike one other) {bare : Request} {url : String}
    (same : Event.entries (closing (.ok (bare.under one, Supply.Remote.withLicense url one))) =
      Event.entries (closing (.ok (bare.under other, Supply.Remote.withLicense url other)))) :
    one = other := by
  have entry : redirectEntry (bare.under one) (Supply.Remote.withLicense url one) =
      redirectEntry (bare.under other) (Supply.Remote.withLicense url other) :=
    (List.cons.inj same).1
  have text := congrArg Log.Entry.message entry
  simp only [redirectEntry, Request.under, String.append_right_inj] at text
  exact withLicense_injective h.ne_empty.1 h.ne_empty.2 text

/-- The license is in the log exactly when a download is redirected by the remote catalog. Without
that, two licenses that are redacted to the same text leave the same log. -/
theorem same_log_iff {services : Services} (blind : services.Blind) (base : String)
    (request : Request) (operation : Operation) (start : services.State)
    (alike : Log.Alike one other) :
    services.log (gateway.perform base (request.under one) operation) start =
        services.log (gateway.perform base (request.under other) operation) start ↔
      ¬ (one ≠ other ∧ gateway.Redirects request operation ∧
        ∃ outcome, services.result (gateway.perform base (request.under one) operation) start =
          .ok outcome) := by
  by_cases redirects : gateway.Redirects request operation
  · obtain ⟨rfl, marked, remote⟩ := redirects
    have marked' (license : String) : (request.under license).takeMetadataMark? = none := by
      rw [takeMetadataMark?_under, marked]
      rfl
    obtain ⟨results, entries⟩ :=
      play_alike blind (located_alike (alike : Log.Alike one other) request) start
    obtain ⟨ended, logged⟩ := play_redirect services base (marked' one) remote start
    obtain ⟨_, logged'⟩ := play_redirect services base (marked' other) remote start
    rw [ended, logged, logged', entries, List.append_right_inj]
    revert results
    generalize services.result (gateway.located (request.under one)) start = found
    generalize services.result (gateway.located (request.under other)) start = found'
    intro results
    cases results with
    | ok place =>
      obtain ⟨bare, url, rfl, rfl⟩ := place
      constructor
      · rintro same ⟨differ, -⟩
        exact differ (closing_injective alike same)
      · intro kept
        by_cases same : one = other
        · rw [same]
        · exact absurd ⟨same, ⟨rfl, marked, remote⟩, _, rfl⟩ kept
    | error same =>
      obtain rfl := same
      constructor
      · rintro _ ⟨_, _, _, failed⟩
        cases failed
      · intro _
        rfl
  · have same := (play_alike blind (perform_alike alike base redirects) start).2
    simp only [redirects, false_and, and_false, not_false_eq_true, iff_true]
    exact same

/-- Services that know one release of every product and hand out one package. -/
def oneRelease : Services where
  State := Unit
  answer query state :=
    match query with
    | .versions .. => (.ok ["18.2.7"], state)
    | .metadata .. => (.ok { url := "https://up/chef.deb", version := "18.2.7" }, state)
    | _ => (.error .noCandidates, state)

theorem oneRelease_blind : oneRelease.Blind := ⟨fun _ _ _ => rfl, fun _ _ _ => rfl⟩

def chefPackage : Request where
  channel := .stable
  product := "chef"
  platform := "ubuntu"
  platformVersion := "22.04"
  architecture := "x86_64"

/-- What an operation on the package leaves in the log under a license. -/
def logUnder (license : String) (operation : Operation) : List Log.Entry :=
  oneRelease.log ((plain .commercial).perform "" (chefPackage.under license) operation) ()

theorem free_alike : Log.Alike "free-1" "free-2" := ⟨by decide, by decide, by decide⟩

/-- Two licenses that differ past their fourth character are told apart by the log of a download. -/
theorem redirect_tells_license : oneRelease.Blind ∧ Log.Alike "free-1" "free-2" ∧
    logUnder "free-1" .download ≠ logUnder "free-2" .download :=
  ⟨oneRelease_blind, free_alike, by decide +kernel⟩

theorem metadata_hides_license :
    oneRelease.Blind ∧ Log.Alike "free-1" "free-2" ∧
      logUnder "free-1" .metadata = logUnder "free-2" .metadata := by
  refine ⟨oneRelease_blind, free_alike, ?_⟩
  apply (same_log_iff oneRelease_blind "" chefPackage .metadata () free_alike).mpr
  rintro ⟨_, redirects, _⟩
  cases redirects.download

end ReleaseGate.Gateway
