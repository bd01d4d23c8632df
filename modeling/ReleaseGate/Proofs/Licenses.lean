import ReleaseGate.Proofs.Likeness
import ReleaseGate.Proofs.Operation

/-! Requests that differ in their license ids alone. Everything but a redirect of the remote catalog
takes the same steps for them. -/

namespace ReleaseGate

/-- The same request under another license. -/
def Request.under (request : Request) (license : String) : Request :=
  { request with licenseId := license }

/-- Two license ids that the log writes alike. -/
structure Log.Alike (one other : String) : Prop where
  long : 4 < one.length
  long' : 4 < other.length
  same : one.toList.take 4 = other.toList.take 4

namespace Log.Alike

variable {one other : String} (h : Log.Alike one other)

include h

theorem redact_eq : redact one = redact other := by
  have shown {secret : String} (long : 4 < secret.length) :
      redact secret = String.ofList (secret.toList.take 4) ++ "****" := by
    have cut : (secret.toList.take 4).length ≠ secret.toList.length := by
      rw [List.length_take, String.length_toList]
      omega
    have filled : secret ≠ "" := by
      rintro rfl
      exact absurd long (by decide)
    simp only [redact, filled, cut, if_false]
  rw [shown h.long, shown h.long', h.same]

theorem ne_empty : one ≠ "" ∧ other ≠ "" := by
  constructor
  · rintro rfl
    exact absurd h.long (by decide)
  · rintro rfl
    exact absurd h.long' (by decide)

end Log.Alike

/-- The answers of the services do not depend on the license they are asked about. -/
structure Services.Blind (services : Services) : Prop where
  validate : ∀ one other state,
    services.answer (.validate one) state = services.answer (.validate other) state
  customerEmail : ∀ one other state,
    services.answer (.customerEmail one) state = services.answer (.customerEmail other) state

/-- Questions that are the same but for the license they are about. -/
inductive Query.SameButLicense : (one other : Query) →
    (Except Failure one.Answer → Except Failure other.Answer → Prop) → Prop
  | same (query : Query) : SameButLicense query query (· = ·)
  | validate (one other : String) : SameButLicense (.validate one) (.validate other) (· = ·)
  | customerEmail (one other : String) :
      SameButLicense (.customerEmail one) (.customerEmail other) (· = ·)

/-- The same log, whatever the license. -/
def Likeness.butLicense : Likeness := ⟨Query.SameButLicense, (· = ·), (· = ·)⟩

namespace Likeness.butLicense

theorem reflexive : butLicense.Reflexive := ⟨.same, fun _ => rfl, fun _ => rfl⟩

theorem companies {services : Services} (blind : services.Blind) :
    Companies butLicense services services (· = ·) := by
  constructor
  rintro query query' answers asks state _ rfl
  cases asks with
  | same => exact ⟨rfl, rfl⟩
  | validate one other =>
    rw [blind.validate one other]
    exact ⟨rfl, rfl⟩
  | customerEmail one other =>
    rw [blind.customerEmail one other]
    exact ⟨rfl, rfl⟩

/-- An action is like itself, and ends alike in whatever sense the same value does. -/
theorem same {α : Type} {values : α → α → Prop} (action : Action α)
    (h : ∀ value, values value value) :
    butLicense.Actions values action action :=
  (Actions.refl butLicense reflexive action).mono fun value _ same => same ▸ h value

end Likeness.butLicense

/-- The supply looks at no license before a download. -/
structure Supply.Heedless (supply : Supply) : Prop where
  latest : ∀ request license, supply.latest (request.under license) = supply.latest request
  versions : ∀ request license, supply.versions (request.under license) = supply.versions request
  packages : ∀ request license, supply.packages (request.under license) = supply.packages request
  metadata : ∀ request license, supply.metadata (request.under license) = supply.metadata request
  fileName : ∀ request license, supply.fileName (request.under license) = supply.fileName request

namespace Gateway

variable {gateway : Gateway}

theorem heedless_supply (request : Request) : (gateway.supply request).Heedless := by
  unfold supply Supply.choose
  split
  · exact ⟨fun _ _ => rfl, fun _ _ => rfl, fun _ _ => rfl, fun _ _ => rfl, fun _ _ => rfl⟩
  · split
    · exact ⟨fun _ _ => rfl, fun _ _ => rfl, fun _ _ => rfl, fun _ _ => rfl, fun _ _ => rfl⟩
    · split
      · exact ⟨fun _ _ => rfl, fun _ _ => rfl, fun _ _ => rfl, fun _ _ => rfl, fun _ _ => rfl⟩
      · exact ⟨fun _ _ => rfl, fun _ _ => rfl, fun _ _ => rfl, fun _ _ => rfl, fun _ _ => rfl⟩

theorem supply_under (request : Request) (license : String) :
    gateway.supply (request.under license) = gateway.supply request := rfl

theorem visible_under (request : Request) (license : String) :
    gateway.visible (request.under license) = gateway.visible request := rfl

theorem resolve_under {supply : Supply} (h : supply.Heedless) (request : Request)
    (license : String) :
    gateway.resolve supply (request.under license) = gateway.resolve supply request := by
  unfold resolve
  rw [h.versions]
  rfl

/-- The same request under each of two licenses. -/
def Under (one other : String) (request request' : Request) : Prop :=
  ∃ bare : Request, request = bare.under one ∧ request' = bare.under other

variable {one other : String}

theorem reported_alike {α : Type} {values : α → α → Prop} {operation : String}
    {action action' : Action α} (h : Likeness.butLicense.Actions values action action') :
    Likeness.butLicense.Actions values (reported operation action)
      (reported operation action') := by
  apply h.orElse
  rintro failure _ rfl
  exact .note rfl (.done (.error rfl))

theorem resolved_alike {supply : Supply} (h : supply.Heedless) (request : Request) :
    Likeness.butLicense.Actions (Under one other) (gateway.resolved supply (request.under one))
      (gateway.resolved supply (request.under other)) := by
  unfold resolved
  rw [resolve_under h, resolve_under h]
  apply (Likeness.butLicense.same _ fun _ => rfl).bind
  rintro version _ rfl
  exact .done (.ok ⟨{ request with version }, rfl, rfl⟩)

/-- Values are alike in no particular sense. -/
def anything {α : Type} (_ _ : α) : Prop := True

theorem latestVersion_alike (request : Request) :
    Likeness.butLicense.Actions anything (gateway.latestVersion (request.under one))
      (gateway.latestVersion (request.under other)) := by
  apply reported_alike
  have heedless := gateway.heedless_supply request
  simp only [supply_under, visible_under]
  rw [heedless.latest, heedless.latest]
  apply (Likeness.butLicense.same _ fun _ => rfl).bind
  rintro latest _ rfl
  by_cases shown : (gateway.visible request [latest]).contains latest = true
  · simp only [shown, if_true]
    exact .done (.ok trivial)
  · simp only [shown]
    have newest (license : String) : gateway.resolve (gateway.supply request)
        { request.under license with version := "" } =
        gateway.resolve (gateway.supply request) { request with version := "" } :=
      resolve_under heedless { request with version := "" } license
    rw [newest, newest]
    exact Likeness.butLicense.same _ fun _ => trivial

theorem allVersions_alike (request : Request) :
    Likeness.butLicense.Actions anything (gateway.allVersions (request.under one))
      (gateway.allVersions (request.under other)) := by
  apply reported_alike
  simp only [supply_under, visible_under]
  rw [(gateway.heedless_supply request).versions, (gateway.heedless_supply request).versions]
  exact Likeness.butLicense.same _ fun _ => trivial

theorem packages_alike (base : String) (request : Request) :
    Likeness.butLicense.Actions anything (gateway.packages base (request.under one))
      (gateway.packages base (request.under other)) := by
  apply reported_alike
  have heedless := gateway.heedless_supply request
  simp only [supply_under]
  apply (resolved_alike heedless request).bind
  rintro _ _ ⟨bare, rfl, rfl⟩
  rw [heedless.packages, heedless.packages]
  apply (Likeness.butLicense.same _ fun _ => rfl).bind
  rintro catalog _ rfl
  exact .note rfl (.done (.ok trivial))

theorem record_alike (base : String) (request : Request) :
    Likeness.butLicense.Actions anything (gateway.record base (request.under one))
      (gateway.record base (request.under other)) := by
  unfold record
  have heedless := gateway.heedless_supply request
  simp only [supply_under]
  apply (resolved_alike heedless request).bind
  rintro _ _ ⟨bare, rfl, rfl⟩
  rw [heedless.metadata, heedless.metadata]
  apply (Likeness.butLicense.same _ fun _ => rfl).bind
  rintro record _ rfl
  exact .done (.ok trivial)

theorem fileName_alike (request : Request) :
    Likeness.butLicense.Actions anything (gateway.fileName (request.under one))
      (gateway.fileName (request.under other)) := by
  apply reported_alike
  have heedless := gateway.heedless_supply request
  simp only [supply_under]
  apply (resolved_alike heedless request).bind
  rintro _ _ ⟨bare, rfl, rfl⟩
  rw [heedless.fileName, heedless.fileName]
  exact Likeness.butLicense.same _ fun _ => trivial

theorem takeMetadataMark?_under (request : Request) (license : String) :
    (request.under license).takeMetadataMark? =
      request.takeMetadataMark?.map (·.under license) := by
  simp only [Request.takeMetadataMark?, Request.under]
  cases Request.unmarked? request.architecture with
  | some => rfl
  | none =>
    cases Request.unmarked? request.platform with
    | some => rfl
    | none =>
      cases Request.unmarked? request.platformVersion with
      | some => rfl
      | none => cases Request.unmarked? request.version <;> rfl

theorem licensed_alike (h : Log.Alike one other) (request : Request) :
    Likeness.butLicense.Actions anything (gateway.licensed (request.under one))
      (gateway.licensed (request.under other)) := by
  have needed : gateway.needsLicenseCheck (request.under one) =
      gateway.needsLicenseCheck (request.under other) := by
    rw [Bool.eq_iff_iff]
    simp only [needsLicenseCheck, Bool.and_eq_true, decide_eq_true_eq, Request.under, ne_eq,
      h.ne_empty.1, h.ne_empty.2]
    exact Iff.rfl
  unfold licensed
  rw [needed]
  split
  · have asked : Likeness.butLicense.Actions (· = ·) (Action.get (.validate one))
        (Action.get (.validate other)) := by
      apply Likeness.Actions.ask (Query.SameButLicense.validate one other)
      rintro answer _ rfl
      exact Likeness.butLicense.same _ fun _ => rfl
    apply Likeness.Actions.bind asked
    rintro valid _ rfl
    simp only [Request.under, h.redact_eq]
    exact Likeness.butLicense.same _ fun _ => trivial
  · exact .done (.ok trivial)

end Gateway

namespace Supply

variable {one other : String}

theorem platform_download_alike (h : Log.Alike one other) (persona : Persona) (portalRoot : String)
    (request : Request) :
    Likeness.butLicense.Actions (· = ·)
      ((Platform.supply persona portalRoot).download (request.under one))
      ((Platform.supply persona portalRoot).download (request.under other)) := by
  have email : Likeness.butLicense.Actions (· = ·)
      (Platform.step .licenseLookup (Action.get (.customerEmail one)))
      (Platform.step .licenseLookup (Action.get (.customerEmail other))) := by
    unfold Platform.step
    apply Likeness.Actions.orElse
    · apply Likeness.Actions.ask (Query.SameButLicense.customerEmail one other)
      rintro answer _ rfl
      exact Likeness.butLicense.same _ fun _ => rfl
    · rintro failure _ rfl
      exact Likeness.butLicense.same _ fun _ => rfl
  have customer : Likeness.butLicense.Actions (· = ·) (Platform.customer one)
      (Platform.customer other) := by
    unfold Platform.customer
    apply email.bind
    rintro email _ rfl
    apply Likeness.Actions.note rfl
    apply (Likeness.butLicense.same (Platform.step _ _) fun _ => rfl).bind
    rintro customers _ rfl
    cases customers with
    | nil => exact Likeness.butLicense.same _ fun _ => rfl
    | cons customer rest => exact .done (.ok rfl)
  have fetched : Likeness.butLicense.Actions (· = ·) (Platform.fetch portalRoot one)
      (Platform.fetch portalRoot other) := by
    unfold Platform.fetch
    apply customer.bind
    rintro customer _ rfl
    exact Likeness.butLicense.same _ fun _ => rfl
  simp only [Platform.supply, Platform.download, Request.under, h.ne_empty.1, h.ne_empty.2,
    if_false, h.redact_eq]
  apply (Likeness.butLicense.same _ fun _ => rfl).bind
  rintro _ _ rfl
  apply Likeness.Actions.note rfl
  apply fetched.bind
  rintro artifact _ rfl
  exact .done (.ok rfl)

end Supply

namespace Gateway

variable {gateway : Gateway} {one other : String}

/-- The product comes from the remote catalog. -/
def FromCatalog (gateway : Gateway) (product : String) : Prop :=
  product ∉ Supply.recorded ∧ product ≠ platformProduct ∧
    gateway.settings.products.isEnterprise product = false

theorem supply_fromCatalog {request : Request} (h : gateway.FromCatalog request.product) :
    gateway.supply request = Supply.Remote.supply := by
  obtain ⟨recorded, platform, enterprise⟩ := h
  simp [supply, Supply.choose, recorded, platform, enterprise]

theorem download_alike (h : Log.Alike one other) {request : Request}
    (elsewhere : ¬ gateway.FromCatalog request.product) (bare : Request) :
    Likeness.butLicense.Actions (· = ·) ((gateway.supply request).download (bare.under one))
      ((gateway.supply request).download (bare.under other)) := by
  unfold supply Supply.choose
  split
  · exact Likeness.butLicense.same _ fun _ => rfl
  · rename_i recorded
    split
    · exact Supply.platform_download_alike h _ _ _
    · rename_i platform
      split
      · exact Likeness.butLicense.same _ fun _ => rfl
      · rename_i enterprise
        exact absurd ⟨by simpa using recorded, platform, by simpa using enterprise⟩ elsewhere

theorem artifact_alike (h : Log.Alike one other) {request : Request}
    (elsewhere : ¬ gateway.FromCatalog request.product) :
    Likeness.butLicense.Actions anything (gateway.artifact (request.under one))
      (gateway.artifact (request.under other)) := by
  rw [artifact_eq, artifact_eq]
  apply (licensed_alike h request).bind
  rintro _ _ _
  simp only [supply_under]
  apply (resolved_alike (gateway.heedless_supply request) request).bind
  rintro _ _ ⟨bare, rfl, rfl⟩
  apply (download_alike h elsewhere bare).bind
  rintro outcome _ rfl
  have said : announced (bare.under one) outcome = announced (bare.under other) outcome := rfl
  rw [said]
  exact Likeness.butLicense.same _ fun _ => trivial

/-- The operation redirects to the place that the remote catalog has for the artifact. -/
structure Redirects (gateway : Gateway) (request : Request) (operation : Operation) : Prop where
  download : operation = .download
  artifact : request.takeMetadataMark? = none
  remote : gateway.FromCatalog request.product

/-- Whatever does not redirect so takes the same steps under both licenses. -/
theorem perform_alike (h : Log.Alike one other) (base : String) {request : Request}
    {operation : Operation} (kept : ¬ gateway.Redirects request operation) :
    Likeness.butLicense.Actions anything (gateway.perform base (request.under one) operation)
      (gateway.perform base (request.under other) operation) := by
  cases operation with
  | latestVersion => exact latestVersion_alike request
  | allVersions => exact allVersions_alike request
  | packages => exact packages_alike base request
  | metadata => exact reported_alike (record_alike base request)
  | fileName => exact fileName_alike request
  | download =>
    apply reported_alike
    rw [takeMetadataMark?_under, takeMetadataMark?_under]
    cases marked : request.takeMetadataMark? with
    | some unmarked =>
      apply (record_alike base unmarked).bind
      intro record record' _
      exact .done (.ok trivial)
    | none => exact artifact_alike h fun remote => kept ⟨rfl, marked, remote⟩

end Gateway

end ReleaseGate
