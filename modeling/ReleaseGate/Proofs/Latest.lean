import ReleaseGate.Proofs.Operation
import ReleaseGate.Proofs.Order
import ReleaseGate.Proofs.Resolution
import ReleaseGate.Proofs.Shelf

/-! Whether the latest version is one of those that are listed. -/

namespace ReleaseGate.Gateway

open Store (Backs Table greatest?)

variable {gateway : Gateway} {store : Store} {answers : Answers}

theorem greatest?_ascending (versions : List String) :
    greatest? (Version.ascending versions) = greatest? versions := by
  apply Option.ext
  intro text
  simp only [Store.greatest?_eq_some_iff, Version.mem_ascending]

/-- What a strategy lists for a product that is kept in a table. -/
def listing {α : Type} (table : Table α) (product : String) : Action (List String) := do
  return Version.ascending (← table.versions product)

/-- What a table has as the latest version is the greatest of the versions it lists. -/
theorem listed_of_latest {α : Type} {table : Table α} (backs : store.Backs answers)
    (faithful : table.model.Faithful) {product version : String}
    (h : (table.latest product).outcome answers = .ok version) :
    ∃ listed, (listing table product).outcome answers = .ok listed ∧
      greatest? listed = some version := by
  obtain ⟨versions, listed, greatest⟩ := Store.greatest_of_latest backs faithful h
  refine ⟨Version.ascending versions, ?_, ?_⟩
  · exact Action.outcome_bind_eq_ok.mpr ⟨versions, listed, rfl⟩
  · rw [greatest?_ascending]
    exact greatest

theorem supply_listed_of_latest (backs : store.Backs answers) {request : Request}
    (stored : gateway.FromStore request.product) {version : String}
    (h : ((gateway.supply request).latest request).outcome answers = .ok version) :
    ∃ listed, ((gateway.supply request).versions request).outcome answers = .ok listed ∧
      greatest? listed = some version := by
  obtain ⟨supply, -⟩ | ⟨supply, -⟩ := supply_stored stored
  · rw [supply] at h ⊢
    simp only [Supply.Records.supply, Supply.Records.latest, Action.outcome_noting] at h
    exact listed_of_latest backs Store.fileRelease_faithful h
  · rw [supply] at h ⊢
    simp only [Supply.Bucket.supply, Supply.Bucket.latest, Action.outcome_noting] at h
    exact listed_of_latest backs Store.managedRelease_faithful h

/-- What a gateway lists is what the persona sees, if it sees anything. -/
theorem outcome_allVersions_eq (gateway : Gateway) (request : Request) (answers : Answers) :
    (gateway.allVersions request).outcome answers =
      (((gateway.supply request).versions request).outcome answers).bind fun listed =>
        if (gateway.visible request listed).isEmpty then .error .noneVisible
        else .ok (gateway.visible request listed) := by
  unfold allVersions reported
  rw [Action.outcome_noting, Action.outcome_bind]
  congr 1
  funext listed
  dsimp only
  split <;> rfl

theorem outcome_allVersions {request : Request} {listed : List String}
    (h : ((gateway.supply request).versions request).outcome answers = .ok listed)
    (shown : gateway.visible request listed ≠ []) :
    (gateway.allVersions request).outcome answers = .ok (gateway.visible request listed) := by
  rw [outcome_allVersions_eq, h]
  exact if_neg (by simpa using shown)

/-- Of a product that is kept in the store, the latest version is listed for all but a trial. A
trial lists the last version alone, and has it as the latest when no other text is greater. -/
theorem latest_listed_iff (backs : store.Backs answers) {request : Request}
    (stored : gateway.FromStore request.product) {version : String}
    (h : (gateway.latestVersion request).outcome answers = .ok version) :
    ∃ listed list, ((gateway.supply request).versions request).outcome answers = .ok listed ∧
      (gateway.allVersions request).outcome answers = .ok list ∧
      (version ∈ list ↔ (gateway.persona = .trial → greatest? listed = listed.getLast?)) := by
  unfold latestVersion reported at h
  rw [Action.outcome_noting] at h
  obtain ⟨latest, known, h⟩ := Action.outcome_bind_eq_ok.mp h
  obtain ⟨listed, versions, greatest⟩ := supply_listed_of_latest backs stored known
  have member : latest ∈ listed := (Store.greatest?_eq_some_iff.mp greatest).1
  have same (shown : latest ∈ gateway.visible request [latest]) : version = latest := by
    rw [if_pos (by simpa using shown)] at h
    cases h
    rfl
  by_cases trial : gateway.persona = .trial
  · obtain ⟨last, lastly⟩ : ∃ last, listed.getLast? = some last := by
      cases lastly : listed.getLast? with
      | some last => exact ⟨last, rfl⟩
      | none =>
        rw [List.getLast?_eq_none_iff.mp lastly] at member
        cases member
    have shown : gateway.visible request listed = [last] := by
      rw [visible_trial _ _ trial, lastly]
      rfl
    refine ⟨listed, [last], versions, ?_, ?_⟩
    · rw [← shown]
      exact outcome_allVersions versions (by simp [shown])
    · rw [same (by simp [visible_trial _ _ trial]), greatest, lastly]
      simp [trial]
  · have seen : version ∈ gateway.visible request listed := by
      by_cases shown : latest ∈ gateway.visible request [latest]
      · rw [same shown]
        exact (mem_visible_iff trial).mpr ⟨member, shown⟩
      · rw [if_neg (by simpa using shown), outcome_resolve_eq_ok] at h
        obtain ⟨_, relisted, versions', picked⟩ := h
        have channel : ({ request with version := "" } : Request).channel = request.channel := rfl
        have product : ({ request with version := "" } : Request).product = request.product := rfl
        have again := gateway.versions_congr channel product
        rw [show (gateway.supply request).versions _ = _ from again, versions] at versions'
        cases versions'
        exact (Version.chosen_of_choose (choose_of_picked picked)).candidate
    refine ⟨listed, _, versions, outcome_allVersions versions (List.ne_nil_of_mem seen), ?_⟩
    simp [seen, trial]

/-- A release of habitat without files. -/
def emptyRelease (version : String) : Json :=
  .record [("metadata", .list []), ("product", .text Supply.Records.habitat),
    ("version", .text version)]

/-- The later of two versions is not the greater text. -/
def twoReleases : Store := ⟨[("metadata-details", [emptyRelease "0.9", emptyRelease "0.10"])]⟩

def latestHabitat : Request := { channel := .stable, product := Supply.Records.habitat }

theorem commercial_latest_listed :
    ((plain .commercial).latestVersion latestHabitat).outcome twoReleases.answers = .ok "0.9" ∧
      ∃ list, ((plain .commercial).allVersions latestHabitat).outcome twoReleases.answers =
        .ok list ∧ "0.9" ∈ list := by
  have latest : ((plain .commercial).latestVersion latestHabitat).outcome twoReleases.answers =
    .ok "0.9" := by rfl
  obtain ⟨_, list, _, shown, member⟩ :=
    latest_listed_iff (Store.backs_answers twoReleases) (.inl (by decide)) latest
  exact ⟨latest, list, shown, member.mpr nofun⟩

/-- A trial is told of a latest version that it may not have. -/
theorem trial_latest_unlisted :
    ((plain .trial).latestVersion latestHabitat).outcome twoReleases.answers = .ok "0.9" ∧
      ((plain .trial).allVersions latestHabitat).outcome twoReleases.answers = .ok ["0.10"] :=
  ⟨rfl, rfl⟩

end ReleaseGate.Gateway
