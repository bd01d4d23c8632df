import ReleaseGate.Proofs.Access
import ReleaseGate.Proofs.Questions

/-! Who gets at the platform bundle: a license leads to it only when it was found valid, and only
the commercial persona has the bundle at all. -/

namespace ReleaseGate

namespace Supply.Platform

def unavailable : Failure := .unsupported "chef-360 not available for the trial and opensource"

theorem guard_eq_fail {persona : Persona} (other : persona ≠ .commercial) :
    guard persona = .fail unavailable :=
  if_neg other

end Supply.Platform

namespace Gateway

variable {gateway : Gateway}

theorem supply_bundle {request : Request} (product : request.product = platformProduct) :
    gateway.supply request = Supply.Platform.supply gateway.persona gateway.portalRoot := by
  unfold supply Supply.choose
  rw [product, if_neg (by decide), if_pos rfl]
  rfl

theorem product_of_plan {base : String} {request : Request} {operation : Operation}
    {plan : Plan operation} (planned : operation.plan? base request = some plan) :
    plan.asked.product = request.product := by
  cases operation with
  | latestVersion => cases planned
  | allVersions => cases planned
  | packages =>
    cases planned
    rfl
  | metadata =>
    cases planned
    rfl
  | fileName =>
    cases planned
    rfl
  | download =>
    cases marked : request.takeMetadataMark? with
    | some unmarked =>
      simp only [Operation.plan?, marked] at planned
      cases planned
      exact (Request.takeMetadataMark?_kept marked).2
    | none =>
      simp only [Operation.plan?, marked] at planned
      cases planned
      rfl

/-- Of the bundle no version has ended. -/
theorem endOfLife_bundle (version : String) :
    Product.endOfLife platformProduct version = false := by
  unfold Product.endOfLife
  split <;> rfl

/-- The checks have nothing against the bundle for those who are not commercial. -/
theorem checks_bundle {asked : Request} (product : asked.product = platformProduct)
    (other : gateway.persona ≠ .commercial) (method : Method) :
    gateway.checks method asked = pure () := by
  have kept : gateway.checkEndOfLife asked = pure () := by
    unfold checkEndOfLife
    rw [product, endOfLife_bundle]
    split <;> rfl
  have unneeded : gateway.licensed asked = pure () := by
    unfold licensed needsLicenseCheck
    simp [other]
  unfold checks
  rw [kept, unneeded]
  split <;> rfl

/-- Whoever is not commercial is refused the bundle, whatever is asked about it. -/
theorem perform_bundle (base : String) {request : Request}
    (product : request.product = platformProduct) (other : gateway.persona ≠ .commercial)
    (operation : Operation) : gateway.perform base request operation =
      reported operation.name (.fail Supply.Platform.unavailable) := by
  have refused := Supply.Platform.guard_eq_fail other
  cases planned : operation.plan? base request with
  | some plan =>
    have product' := (product_of_plan planned).trans product
    rw [perform_eq gateway planned, checks_bundle product' other, supply_bundle product']
    simp only [Supply.Platform.supply, refused]
    rfl
  | none =>
    cases operation with
    | latestVersion =>
      simp only [perform, latestVersion, supply_bundle product, Supply.Platform.supply, refused]
      rfl
    | allVersions =>
      simp only [perform, allVersions, supply_bundle product, Supply.Platform.supply, refused]
      rfl
    | packages => cases planned
    | metadata => cases planned
    | fileName => cases planned
    | download =>
      simp only [Operation.plan?] at planned
      split at planned <;> cases planned

/-- The way from a license to the bundle is free: the commercial persona was asked for the bundle
itself, under a license that was found valid before. -/
structure Cleared (gateway : Gateway) (request : Request) (before : List Event) : Prop where
  persona : gateway.persona = .commercial
  product : request.product = platformProduct
  license : request.licenseId ≠ ""
  unmarked : request.takeMetadataMark? = none
  validated : .asked (.validate request.licenseId) (.ok true) ∈ before

/-- A license check that lets a license through has found it valid. -/
theorem validated_of_runs {license : String} {events : List Event}
    (run : (checkLicense license).Runs events (.ok ())) :
    .asked (.validate license) (.ok true) ∈ events := by
  unfold checkLicense at run
  obtain ⟨_, impossible, _⟩ | ⟨valid, first, rest, rfl, asked, after⟩ :=
    Action.runs_bind_iff.mp run
  · cases impossible
  · rw [Action.runs_get_iff.mp asked]
    cases valid with
    | true => simp
    | false =>
      obtain ⟨_, _, failed⟩ := Action.runs_note_iff.mp after
      cases (Action.runs_fail_iff.mp failed).2

/-- An element of two lists in turn is past the first or within it. -/
theorem append_eq_append_cons {α : Type} {first rest before after : List α} {a : α}
    (same : first ++ rest = before ++ a :: after) :
    (∃ more, before = first ++ more ∧ rest = more ++ a :: after) ∨
    ∃ more, first = before ++ a :: more := by
  obtain ⟨more, rfl, rest⟩ | ⟨more, rfl, tail⟩ := List.append_eq_append_iff.mp same
  · exact .inl ⟨more, rfl, rest⟩
  · cases more with
    | nil => exact .inl ⟨[], by simp, tail.symm⟩
    | cons b more =>
      cases tail
      exact .inr ⟨more, rfl⟩

/-- Without a license, or for those who are not commercial, no artifact is on its way. -/
theorem plain_artifact_refused {request : Request} (product : request.product = platformProduct)
    (refused : ¬ (gateway.persona = .commercial ∧ request.licenseId ≠ "")) :
    (gateway.artifact request).Plain := by
  rw [artifact_eq, supply_bundle product]
  simp only [resolved, bind_assoc, pure_bind]
  apply (asks_licensed gateway id).bind
  intro _
  apply (asks_resolve (Supply.Platform.asks_supply _ _)).bind
  intro version
  have refusal : ((Supply.Platform.supply gateway.persona gateway.portalRoot).download
      { request with version }).Plain := by
    by_cases commercial : gateway.persona = .commercial
    · have unlicensed : request.licenseId = "" := by
        by_contra licensed
        exact refused ⟨commercial, licensed⟩
      apply (Supply.Platform.asks_guard _).bind
      intro _
      unfold Supply.Platform.download
      rw [if_pos unlicensed]
      exact .done _
    · simp only [Supply.Platform.supply, Supply.Platform.guard_eq_fail commercial]
      exact .done _
  exact refusal.bind (asks_announced _)

/-- The artifact of the bundle is on its way only when the license was found valid. -/
theorem cleared_of_artifact {request : Request} (product : request.product = platformProduct)
    (unmarked : request.takeMetadataMark? = none) {before rest : List Event} {query : Query}
    {answer : Except Failure query.Answer} (entitling : query.Entitling)
    {result : Except Failure Outcome}
    (run : (gateway.artifact request).Runs (before ++ .asked query answer :: rest) result) :
    gateway.Cleared request before := by
  have there : .asked query answer ∈ before ++ .asked query answer :: rest := by simp
  by_cases licensed : gateway.persona = .commercial ∧ request.licenseId ≠ ""
  · rw [artifact_eq] at run
    have checked : gateway.licensed request = checkLicense request.licenseId := by
      unfold Gateway.licensed needsLicenseCheck
      simp [licensed, product]
    rw [checked] at run
    have plain : (checkLicense request.licenseId).Plain := asks_checkLicense id
    obtain ⟨_, _, failed⟩ | ⟨_, first, others, split, passed, _⟩ := Action.runs_bind_iff.mp run
    · exact absurd entitling (plain.of_runs failed there)
    · obtain ⟨more, rfl, _⟩ | ⟨more, rfl⟩ := append_eq_append_cons split.symm
      · have validated := List.mem_append_left more (validated_of_runs passed)
        exact ⟨licensed.1, product, licensed.2, unmarked, validated⟩
      · have asked : .asked query answer ∈ before ++ .asked query answer :: more := by simp
        exact absurd entitling (plain.of_runs passed asked)
  · exact absurd entitling ((plain_artifact_refused product licensed).of_runs run there)

theorem perform_unmarked (base : String) {request : Request}
    (unmarked : request.takeMetadataMark? = none) : gateway.perform base request .download =
      reported Operation.download.name (gateway.artifact request) := by
  simp only [perform, download, unmarked]
  rfl

/-- Nothing is asked on the way from a license to the bundle before the license was found valid, in
a download of the bundle itself by the commercial persona. Everyone else is refused whatever they
ask about the bundle, and nobody is asked. -/
theorem entitled_after_validation {task : Task} {events : List Event}
    {result : Except Failure task.Answer} (run : (gateway.carryOut task).Runs events result) :
    (∀ before query answer after, events = before ++ .asked query answer :: after →
      query.Entitling → ∃ base request, task = .request .download base request ∧
        gateway.Cleared request before) ∧
    ∀ operation base request, task = .request operation base request →
      request.product = platformProduct → gateway.persona ≠ .commercial →
      result = .error Supply.Platform.unavailable ∧ ∀ event ∈ events, event.query? = none := by
  constructor
  · rintro before query answer after rfl entitling
    have there : .asked query answer ∈ before ++ .asked query answer :: after := by simp
    by_contra uncleared
    apply (gateway.plain_carryOut ?_).of_runs run there entitling
    rintro base request rfl unmarked product
    change (gateway.perform base request .download).Runs _ _ at run
    rw [perform_unmarked base unmarked] at run
    obtain ⟨first, split, artifact⟩ := runs_reported_iff.mp run
    have unreported : .asked query answer ∉ Operation.download.reports result := by
      cases result <;> simp [Operation.reports, Operation.report]
    obtain ⟨more, rfl, reports⟩ | ⟨more, rfl⟩ := append_eq_append_cons split.symm
    · exact unreported (by simp [reports])
    · exact uncleared ⟨base, request, rfl, cleared_of_artifact product unmarked entitling artifact⟩
  · rintro operation base request rfl product other
    rw [carryOut, perform_bundle base product other, runs_reported_iff] at run
    obtain ⟨first, rfl, failed⟩ := run
    obtain ⟨rfl, rfl⟩ := Action.runs_fail_iff.mp failed
    exact ⟨rfl, by simp [Operation.reports, Operation.report, Event.query?]⟩

/-- The bundle under a license. -/
def bundle (license : String) : Request where
  channel := .stable
  product := platformProduct
  licenseId := license

/-- What comes before the email of the customer is asked for. -/
def beforeLookup : List Event :=
  [.asked (.validate "tmns-1234") (.ok true),
    .noted ⟨.debug, "LICENSE", "license tmns**** valid"⟩,
    .noted ⟨.debug, "RESOLVE", "chef-360 \"\" resolved to latest via platform-service"⟩,
    .noted ⟨.info, "PLATFORM_DOWNLOAD", "starting entitled download for license tmns****"⟩]

/-- The email for a license is asked for once the license was found valid; a trial is refused. -/
theorem lookup_after_validation :
    (∃ base request,
      Task.request .download "" (bundle "tmns-1234") = .request .download base request ∧
      (plain .commercial).Cleared request beforeLookup) ∧
    ∀ event ∈ [Operation.fileName.report Supply.Platform.unavailable], event.query? = none := by
  have cleared : ((plain .commercial).carryOut (.request .download "" (bundle "tmns-1234"))).Runs
      (beforeLookup ++ .asked (.customerEmail "tmns-1234") (.error .noCandidates) ::
        [.noted ⟨.error, "PLATFORM_DOWNLOAD",
            "LicenseLookup failed: No versions available to resolve against"⟩,
          Operation.download.report (.entitlement .licenseLookup)])
      (.error (.entitlement .licenseLookup)) :=
    .ask _ (.note (.note (.note (.ask _ (.note (.note (.done _)))))))
  have refused : ((plain .trial).carryOut (.request .fileName "" (bundle ""))).Runs
      [Operation.fileName.report Supply.Platform.unavailable]
      (.error Supply.Platform.unavailable) :=
    .note (.done _)
  constructor
  · exact (entitled_after_validation cleared).1 _ (.customerEmail "tmns-1234") _ _ rfl trivial
  · exact ((entitled_after_validation refused).2 .fileName "" _ rfl rfl (by decide)).2

end Gateway

end ReleaseGate
