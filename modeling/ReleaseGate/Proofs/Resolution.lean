import ReleaseGate.Gateway
import ReleaseGate.Proofs.Choice
import ReleaseGate.Proofs.Run

/-! How a request comes to a version: what the persona sees of a listing, and what is picked. -/

namespace ReleaseGate.Gateway

variable {gateway : Gateway}

/-- A persona sees nothing that is not there, and sees it in the order in which it is there. -/
theorem visible_sublist (gateway : Gateway) (request : Request) (versions : List String) :
    (gateway.visible request versions).Sublist versions := by
  unfold visible Persona.visibleVersions
  split
  · split
    · exact .refl _
    · exact List.filter_sublist
  · cases lastly : versions.getLast? with
    | none => exact List.nil_sublist _
    | some last => exact List.singleton_sublist.mpr (List.mem_of_getLast? lastly)
  · split
    · exact .refl _
    · exact List.filter_sublist

theorem mem_of_visible {request : Request} {versions : List String}
    {version : String} (h : version ∈ gateway.visible request versions) : version ∈ versions :=
  (gateway.visible_sublist request versions).subset h

theorem visible_supported {request : Request} {versions : List String} {version : String}
    (h : version ∈ gateway.visible request versions) (persona : gateway.persona = .commercial)
    (eol : request.eol = false) : Product.endOfLife request.product version = false := by
  unfold visible Persona.visibleVersions at h
  rw [persona] at h
  simp only [eol, Bool.false_eq_true, if_false] at h
  simpa using (List.mem_filter.mp h).2

theorem visible_openSource {request : Request} {versions : List String} {version : String}
    (h : version ∈ gateway.visible request versions) (persona : gateway.persona = .opensource)
    (product : request.product ≠ "habitat") :
    Product.openSource request.product version = true := by
  unfold visible Persona.visibleVersions at h
  rw [persona] at h
  simp only [product, if_false] at h
  exact (List.mem_filter.mp h).2

/-- Whoever has no trial sees a version or not whatever stands beside it. -/
theorem mem_visible_iff {request : Request} {versions : List String} {version : String}
    (persona : gateway.persona ≠ .trial) :
    version ∈ gateway.visible request versions ↔
      version ∈ versions ∧ version ∈ gateway.visible request [version] := by
  unfold visible Persona.visibleVersions
  split
  · split <;> simp
  · contradiction
  · split <;> simp

theorem visible_trial (request : Request) (versions : List String)
    (persona : gateway.persona = .trial) :
    gateway.visible request versions = versions.getLast?.toList := by
  unfold visible
  rw [persona]
  rfl

/-- The version that a request comes to when these are listed. -/
def picked (gateway : Gateway) (request : Request) (versions : List String) :
    Except Failure String :=
  if versions.isEmpty then .error .noCandidates
  else if (gateway.visible request versions).isEmpty then .error .noneVisible
  else Version.choose request.version (gateway.visible request versions)

theorem resolve_eq (gateway : Gateway) (supply : Supply) (request : Request) :
    gateway.resolve supply request = (do
      gateway.checkEndOfLife request
      let versions ← supply.versions request
      let version ← .ofExcept (gateway.picked request versions)
      .debug "RESOLVE" (request.product ++ " " ++ Text.quoted request.version ++ " resolved to " ++
        version ++ " via " ++ supply.name)
      return version) := by
  unfold resolve picked
  congr 1
  funext _
  congr 1
  funext versions
  split
  · rfl
  · simp only
    split <;> rfl

theorem choose_of_picked {request : Request} {versions : List String}
    {version : String} (h : gateway.picked request versions = .ok version) :
    Version.choose request.version (gateway.visible request versions) = .ok version := by
  unfold picked at h
  split at h
  · cases h
  · split at h
    · cases h
    · exact h

theorem picked_of_choose {request : Request} {versions : List String} {version other : String}
    (shown : other ∈ gateway.visible request versions)
    (h : Version.choose request.version (gateway.visible request versions) = .ok version) :
    gateway.picked request versions = .ok version := by
  have nonempty : versions ≠ [] := List.ne_nil_of_mem (mem_of_visible shown)
  unfold picked
  rw [if_neg (by simpa using nonempty), if_neg (by simpa using List.ne_nil_of_mem shown)]
  exact h

/-- What a request comes to, as far as the listing tells. -/
theorem outcome_resolve (gateway : Gateway) (supply : Supply) (request : Request)
    (answers : Answers) :
    (gateway.resolve supply request).outcome answers =
      ((gateway.checkEndOfLife request).outcome answers).bind fun _ =>
        ((supply.versions request).outcome answers).bind (gateway.picked request) := by
  rw [resolve_eq, Action.outcome_bind]
  congr 1
  funext _
  rw [Action.outcome_bind]
  congr 1
  funext versions
  rw [Action.outcome_bind, Action.outcome_ofExcept]
  cases gateway.picked request versions <;> rfl

/-- A request comes to a version when it passes the gate and the version is picked from what is
listed. -/
theorem outcome_resolve_eq_ok {supply : Supply} {request : Request} {version : String}
    {answers : Answers} :
    (gateway.resolve supply request).outcome answers = .ok version ↔
      (gateway.checkEndOfLife request).outcome answers = .ok () ∧
      ∃ versions, (supply.versions request).outcome answers = .ok versions ∧
        gateway.picked request versions = .ok version := by
  rw [outcome_resolve]
  cases (gateway.checkEndOfLife request).outcome answers with
  | error failure => simp [Except.bind]
  | ok passed =>
    cases (supply.versions request).outcome answers with
    | error failure => simp [Except.bind]
    | ok versions => simp [Except.bind]

/-- The gate for ended versions asks nothing. -/
theorem outcome_checkEndOfLife_congr (gateway : Gateway) (request : Request)
    (answers others : Answers) :
    (gateway.checkEndOfLife request).outcome answers =
      (gateway.checkEndOfLife request).outcome others := by
  unfold checkEndOfLife
  split
  · rfl
  · split <;> rfl

/-- Where a product comes from depends on the product and the channel alone. -/
theorem supply_congr (gateway : Gateway) {request other : Request}
    (channel : other.channel = request.channel) (product : other.product = request.product) :
    gateway.supply other = gateway.supply request := by
  unfold supply
  rw [channel, product]

/-- Requests for one product on one channel have the same listing. -/
theorem versions_congr (gateway : Gateway) {request other : Request}
    (channel : other.channel = request.channel) (product : other.product = request.product) :
    (gateway.supply other).versions other = (gateway.supply request).versions request := by
  cases other
  cases channel
  cases product
  unfold supply Supply.choose
  split
  · rfl
  · split
    · rfl
    · split <;> rfl

end ReleaseGate.Gateway
