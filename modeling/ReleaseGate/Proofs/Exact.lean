import ReleaseGate.Proofs.Follow
import ReleaseGate.Proofs.Latest

/-! What a version that is listed comes to when it is asked for. -/

namespace ReleaseGate.Gateway

variable {gateway : Gateway} {answers : Answers}

theorem visible_of_allVersions {request : Request} {list : List String}
    (h : (gateway.allVersions request).outcome answers = .ok list) :
    ∃ versions, ((gateway.supply request).versions request).outcome answers = .ok versions ∧
      list = gateway.visible request versions := by
  rw [outcome_allVersions_eq] at h
  cases listed : ((gateway.supply request).versions request).outcome answers with
  | error failure =>
    rw [listed] at h
    cases h
  | ok versions =>
    rw [listed] at h
    change (if _ then _ else _) = _ at h
    split at h
    · cases h
    · exact ⟨versions, rfl, (Except.ok.inj h).symm⟩

/-- A listed version is never refused when it is asked for. It comes to the last that is listed of
those that extend it, which is the version itself exactly when none that extends it is listed
after it. -/
theorem resolve_listed_version {request : Request} {list : List String} {version : String}
    (persona : gateway.persona ≠ .trial)
    (h : (gateway.allVersions request).outcome answers = .ok list) (listed : version ∈ list)
    (pinned : wantsLatest version = false) :
    ∃ last, Version.LastExtending version list last ∧
      (gateway.resolve (gateway.supply { request with version }) { request with version }).outcome
          answers = .ok last ∧
      (last = version ↔ ∃ before after, list = before ++ version :: after ∧
        ∀ later ∈ after, ¬ Version.Extends version later) := by
  obtain ⟨versions, supplied, rfl⟩ := visible_of_allVersions h
  obtain ⟨last, lastly, chosen⟩ := Version.choose_of_extends pinned listed (.inl rfl)
  let follow : Request := { request with version }
  have shown : follow.version ∈ gateway.visible follow versions := listed
  have gate : (gateway.checkEndOfLife follow).outcome answers = .ok () := by
    rw [outcome_checkEndOfLife shown, if_neg fun refused => persona refused.1]
  have same : (gateway.supply follow).versions follow = (gateway.supply request).versions request :=
    versions_congr gateway rfl rfl
  rw [← same] at supplied
  have picked : gateway.picked follow versions = .ok last := picked_of_choose shown chosen
  refine ⟨last, lastly, outcome_resolve_eq_ok.mpr ⟨gate, versions, supplied, picked⟩, ?_⟩
  constructor
  · rintro rfl
    exact lastly.2
  · rintro ⟨before, after, split, unmet⟩
    rw [split] at lastly
    exact lastly.not_before unmet (.inl rfl)

/-- A remote catalog that lists a release and a patch of it for every product. -/
def patched : Answers
  | .versions .. => .ok ["16.1", "16.1.16"]
  | _ => .error .noCandidates

def chefAt (version : String) : Request := { channel := .stable, product := "chef", version }

/-- Nothing extends the patch, so it is given to those who ask for it. -/
theorem resolve_listed_patch :
    ∃ last, Version.LastExtending "16.1.16" ["16.1", "16.1.16"] last ∧
      ((plain .commercial).resolve ((plain .commercial).supply (chefAt "16.1.16"))
          (chefAt "16.1.16")).outcome patched = .ok last ∧
      (last = "16.1.16" ↔ ∃ before after, ["16.1", "16.1.16"] = before ++ "16.1.16" :: after ∧
        ∀ later ∈ after, ¬ Version.Extends "16.1.16" later) := by
  have listing : ((plain .commercial).allVersions (chefAt "")).outcome patched =
      .ok ["16.1", "16.1.16"] := rfl
  exact resolve_listed_version (by decide) listing (by decide) rfl

/-- The release is listed, and yet whoever asks for it is given its patch. -/
theorem listed_release_hidden :
    ((plain .commercial).allVersions (chefAt "")).outcome patched = .ok ["16.1", "16.1.16"] ∧
      "16.1" ∈ ["16.1", "16.1.16"] ∧ wantsLatest "16.1" = false ∧
      ((plain .commercial).resolve ((plain .commercial).supply (chefAt "16.1"))
          (chefAt "16.1")).outcome patched = .ok "16.1.16" :=
  ⟨rfl, by decide, rfl, rfl⟩

end ReleaseGate.Gateway
