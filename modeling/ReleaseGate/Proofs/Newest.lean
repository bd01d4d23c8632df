import ReleaseGate.Proofs.Latest

/-! Which of the stored versions a request comes to, whatever the order in which they are stored. -/

namespace ReleaseGate

namespace Version

/-- A version that a request may come to: any at all, or one that extends the version requested. -/
def Suits (requested version : String) : Prop :=
  wantsLatest requested = true ∨ Extends requested version

/-- The last in the order of versions among the candidates that suit the request. -/
structure Newest (requested : String) (candidates : List String) (version : String) : Prop where
  candidate : version ∈ candidates
  suits : Suits requested version
  last : ∀ other ∈ candidates, Suits requested other → Before other version

/-- After the candidate that is chosen stands none that suits the request. -/
theorem split_of_choose {requested version : String} {candidates : List String}
    (h : choose requested candidates = .ok version) :
    Suits requested version ∧ ∃ before after, candidates = before ++ version :: after ∧
      ∀ other ∈ after, ¬ Suits requested other := by
  have chosen := chosen_of_choose h
  cases latest : wantsLatest requested with
  | true =>
    obtain ⟨front, split⟩ := List.getLast?_eq_some_iff.mp (chosen.last latest)
    refine ⟨.inl latest, front, [], split, ?_⟩
    intro other member
    cases member
  | false =>
    have extended := chosen.extended latest
    obtain ⟨last, ⟨-, before, after, split, unmet⟩, again⟩ :=
      choose_of_extends latest chosen.candidate extended
    rw [h] at again
    cases again
    refine ⟨.inr extended, before, after, split, ?_⟩
    rintro other member (any | suits)
    · rw [latest] at any
      cases any
    · exact unmet other member suits

/-- Of candidates in ascending order the newest is chosen. -/
theorem newest_of_choose {requested version : String} {candidates : List String}
    (sorted : candidates.Pairwise Before) (h : choose requested candidates = .ok version) :
    Newest requested candidates version := by
  obtain ⟨suits, before, after, rfl, unmet⟩ := split_of_choose h
  refine ⟨by simp, suits, ?_⟩
  intro other member suited
  obtain earlier | later := List.mem_append.mp member
  · exact (List.pairwise_append.mp sorted).2.2 other earlier version List.mem_cons_self
  · obtain rfl | later := List.mem_cons.mp later
    · exact Before.refl _
    · exact absurd suited (unmet other later)

end Version

namespace Gateway

open Store (Backs)

variable {gateway : Gateway} {store : Store} {answers : Answers} {request : Request}

/-- From a listing in ascending order the newest version is picked. -/
theorem newest_of_picked {versions : List String} {version : String}
    (sorted : versions.Pairwise Version.Before)
    (h : gateway.picked request versions = .ok version) :
    Version.Newest request.version (gateway.visible request versions) version :=
  Version.newest_of_choose (sorted.sublist (gateway.visible_sublist request versions))
    (choose_of_picked h)

/-- What is listed of a product that is kept in the store. -/
theorem outcome_versions_stored (backs : store.Backs answers)
    (stored : gateway.FromStore request.product) :
    ((gateway.supply request).versions request).outcome answers =
      ((gateway.shelf request).versions store request.product).map Version.ascending := by
  obtain ⟨supply, shelf⟩ | ⟨supply, shelf⟩ := supply_stored stored
  · rw [supply, shelf, ← Store.outcome_versions backs Store.fileRelease_plain]
    simp only [Supply.Records.supply, Supply.Records.versions, Action.outcome_bind]
    rfl
  · rw [supply, shelf, ← Store.outcome_versions backs Store.managedRelease_plain]
    simp only [Supply.Bucket.supply, Supply.Bucket.versions, Action.outcome_bind]
    rfl

theorem outcome_versions_readable (backs : store.Backs answers)
    (stored : gateway.FromStore request.product)
    (readable : (gateway.shelf request).Readable store request.product) :
    ((gateway.supply request).versions request).outcome answers =
      .ok (Version.ascending ((gateway.shelf request).recorded store request.product)) := by
  rw [outcome_versions_stored backs stored, Store.Shelf.versions_of_readable readable]
  rfl

/-- A request for a product that is kept in the store comes to the newest version that suits it
among those that the persona sees, and neither that version nor what is listed depends on the order
in which the items of the table came. -/
theorem resolve_newest (backs : store.Backs answers) (stored : gateway.FromStore request.product)
    (readable : (gateway.shelf request).Readable store request.product) :
    (∀ version, (gateway.resolve (gateway.supply request) request).outcome answers = .ok version →
      Version.Newest request.version (gateway.visible request
        (Version.ascending ((gateway.shelf request).recorded store request.product))) version) ∧
    ∀ (other : Store) (others : Answers), other.Backs others →
      (other.items (gateway.shelf request).table).Perm
        (store.items (gateway.shelf request).table) →
      (gateway.resolve (gateway.supply request) request).outcome others =
        (gateway.resolve (gateway.supply request) request).outcome answers ∧
      (gateway.allVersions request).outcome others =
        (gateway.allVersions request).outcome answers := by
  have listed := outcome_versions_readable backs stored readable
  constructor
  · intro version resolves
    obtain ⟨-, versions, again, picked⟩ := outcome_resolve_eq_ok.mp resolves
    rw [listed] at again
    cases again
    exact newest_of_picked (Version.sorted_ascending _) picked
  · intro other others backs' perm
    have same : ((gateway.supply request).versions request).outcome others =
        ((gateway.supply request).versions request).outcome answers := by
      rw [outcome_versions_readable backs' stored (readable.perm perm), listed,
        Version.ascending_congr (Store.Shelf.recorded_perm perm)]
    constructor
    · rw [outcome_resolve, outcome_resolve, same, outcome_checkEndOfLife_congr]
    · rw [outcome_allVersions_eq, outcome_allVersions_eq, same]

/-- The same releases, the other way round. -/
def twoReleasesBack : Store :=
  ⟨[("metadata-details", [emptyRelease "0.10", emptyRelease "0.9"])]⟩

/-- The releases of habitat that begin with a zero. -/
def zeroHabitat : Request := { latestHabitat with version := "0" }

theorem newest_habitat :
    let supply := (plain .commercial).supply zeroHabitat
    ((plain .commercial).resolve supply zeroHabitat).outcome twoReleases.answers = .ok "0.10" ∧
      Version.Newest "0" ((plain .commercial).visible zeroHabitat ["0.9", "0.10"]) "0.10" ∧
      ((plain .commercial).resolve supply zeroHabitat).outcome twoReleasesBack.answers =
        ((plain .commercial).resolve supply zeroHabitat).outcome twoReleases.answers ∧
      ((plain .commercial).allVersions zeroHabitat).outcome twoReleasesBack.answers =
        ((plain .commercial).allVersions zeroHabitat).outcome twoReleases.answers := by
  have stock : twoReleases.stock ((plain .commercial).shelf zeroHabitat).table "habitat" =
      [emptyRelease "0.9", emptyRelease "0.10"] := by rfl
  have readable : ((plain .commercial).shelf zeroHabitat).Readable twoReleases "habitat" := by
    intro item member
    rw [stock, List.mem_pair] at member
    obtain rfl | rfl := member
    · exact ⟨"0.9", rfl⟩
    · exact ⟨"0.10", rfl⟩
  obtain ⟨newest, reordered⟩ :=
    resolve_newest (Store.backs_answers twoReleases) (.inl (by decide)) readable
  have resolves : ((plain .commercial).resolve ((plain .commercial).supply zeroHabitat)
    zeroHabitat).outcome twoReleases.answers = .ok "0.10" := rfl
  exact ⟨resolves, newest "0.10" resolves, reordered twoReleasesBack twoReleasesBack.answers
    (Store.backs_answers twoReleasesBack) (.swap _ _ _)⟩

end Gateway

end ReleaseGate
