import ReleaseGate.Proofs.Leaves
import ReleaseGate.Proofs.Link
import ReleaseGate.Proofs.Operation
import ReleaseGate.Proofs.Resolution
import ReleaseGate.Proofs.Stored

/-! Whether the links that a listing of packages hands out lead back to the version it listed. -/

namespace ReleaseGate.Gateway

open Package (Catalog Record Tree)
open Store (Backs Table)

variable {gateway : Gateway} {store : Store} {answers : Answers}

/-- The remote catalog lists packages of the version it was asked for, and need not say so. -/
def HonestCatalog (answers : Answers) : Prop :=
  ∀ channel product version tree, answers (.packages channel product version) = .ok tree →
    ∀ leaf ∈ tree.leaves, leaf.2.version = "" ∨ leaf.2.version = version

/-- The record says this version or none. -/
def Bears (version : String) (record : Record) : Prop :=
  record.version = "" ∨ record.version = version

theorem bears_of_found {α : Type} {table : Table α} (backs : store.Backs answers)
    (faithful : table.model.Faithful) {product version : String} {record : α}
    (h : (do Supply.found (← table.get product version) : Action α).outcome answers =
      .ok record) : table.model.version record = version := by
  obtain ⟨found, got, h⟩ := Action.outcome_bind_eq_ok.mp h
  cases found with
  | none => cases h
  | some found =>
    cases h
    exact Store.version_of_get backs faithful got

theorem bears_records (release : Store.FileRelease) :
    Tree.All (Bears release.version) (Supply.Records.catalog release).tree := by
  apply List.foldlRecOn
  · exact Tree.all_empty
  · intro tree all file _
    exact all.insert (.inr rfl) _ _ _

theorem bears_bucket (release : Store.ManagedRelease) :
    Tree.All (Bears release.version) (Supply.Bucket.catalog release).tree := by
  apply List.foldlRecOn
  · exact Tree.all_empty
  · intro tree all file _
    exact all.insert (.inr rfl) _ _ _

/-- A listing of packages is of the version it was made for, except that automate has but one. -/
theorem bears_packages (backs : store.Backs answers) (honest : HonestCatalog answers)
    {request : Request} (automate : request.product ≠ Supply.Records.automate)
    (bundle : request.product = platformProduct → request.version = "latest") {catalog : Catalog}
    (h : ((gateway.supply request).packages request).outcome answers = .ok catalog) :
    Tree.All (Bears request.version) catalog.tree := by
  unfold supply Supply.choose at h
  split at h
  · obtain ⟨release, found, h⟩ := Action.outcome_bind_eq_ok.mp h
    cases h
    unfold Supply.Records.release Supply.Records.lookup at found
    rw [if_neg automate] at found
    have version : release.version = request.version :=
      bears_of_found backs Store.fileRelease_faithful found
    rw [← version]
    exact bears_records release
  · split at h
    · rename_i platform
      obtain ⟨_, _, h⟩ := Action.outcome_bind_eq_ok.mp h
      cases h
      refine Tree.all_empty.insert (.inr ?_) _ _ _
      simp [Supply.Platform.record, Supply.Platform.versionOf, bundle platform]
    · split at h
      · obtain ⟨release, found, h⟩ := Action.outcome_bind_eq_ok.mp h
        cases h
        have version : release.version = request.version :=
          bears_of_found backs Store.managedRelease_faithful found
        rw [← version]
        exact bears_bucket release
      · obtain ⟨tree, found, h⟩ := Action.outcome_bind_eq_ok.mp h
        cases h
        exact Tree.all_iff_leaves.mpr (honest _ _ _ _ found)

/-- The bundle is only ever resolved to the one version it has. -/
theorem latest_of_bundle {request : Request} {version : String} {versions : List String}
    (product : request.product = platformProduct)
    (listed : ((gateway.supply request).versions request).outcome answers = .ok versions)
    (picked : gateway.picked request versions = .ok version) : version = "latest" := by
  have member := mem_of_visible (Version.chosen_of_choose (choose_of_picked picked)).candidate
  unfold supply Supply.choose at listed
  rw [product, if_neg (by decide), if_pos rfl] at listed
  obtain ⟨_, _, listed⟩ := Action.outcome_bind_eq_ok.mp listed
  cases listed
  simpa using member

theorem wantsLatest_of_endOfLife {product version : String}
    (h : Product.endOfLife product version = true) : wantsLatest version = false := by
  unfold Product.endOfLife at h
  split at h
  · cases h
  · rename_i other
    simpa using other

/-- Only a trial may be given a version that the gate for versions past their end refuses. -/
theorem outcome_checkEndOfLife {request : Request} {versions : List String}
    (shown : request.version ∈ gateway.visible request versions) :
    (gateway.checkEndOfLife request).outcome answers =
      if gateway.persona = .trial ∧ request.eol = false ∧
          Product.endOfLife request.product request.version = true then
        .error (endOfLife request)
      else .ok () := by
  unfold checkEndOfLife
  by_cases ended : Product.endOfLife request.product request.version = true
  · have asked := wantsLatest_of_endOfLife ended
    cases persona : gateway.persona with
    | opensource => rfl
    | trial => cases request.eol <;> simp [asked, ended]
    | commercial =>
      cases eol : request.eol with
      | true => rfl
      | false =>
        rw [visible_supported shown persona eol] at ended
        cases ended
  · have kept : ¬ (gateway.persona = .trial ∧ request.eol = false ∧
        Product.endOfLife request.product request.version = true) :=
      fun refused => ended refused.2.2
    rw [if_neg ended, if_neg kept]
    split <;> rfl

/-- The version that was picked is picked again when it is asked for. -/
theorem picked_again {request follow : Request} {versions : List String} {version : String}
    (product : follow.product = request.product) (eol : follow.eol = request.eol)
    (pinned : follow.version = version) (h : gateway.picked request versions = .ok version) :
    gateway.picked follow versions = .ok version := by
  have same : gateway.visible follow versions = gateway.visible request versions := by
    unfold visible
    rw [product, eol]
  have choice := Version.choose_again (choose_of_picked h)
  unfold picked at h ⊢
  rw [same, pinned]
  split
  · rename_i empty
    rw [if_pos empty] at h
    cases h
  · rename_i nonempty
    rw [if_neg nonempty] at h
    split
    · rename_i hidden
      rw [if_pos hidden] at h
      cases h
    · exact choice

/-- A request that pins the version which another came to comes to it as well, unless it is refused
for the version's age. -/
theorem outcome_resolve_pinned {request follow : Request} {version : String}
    (h : (gateway.resolve (gateway.supply request) request).outcome answers = .ok version)
    (channel : follow.channel = request.channel) (product : follow.product = request.product)
    (eol : follow.eol = request.eol) (pinned : follow.version = version) :
    (gateway.resolve (gateway.supply follow) follow).outcome answers =
      if gateway.persona = .trial ∧ request.eol = false ∧
          Product.endOfLife request.product version = true then
        .error (endOfLife follow)
      else .ok version := by
  obtain ⟨_, versions, listed, picked⟩ := outcome_resolve_eq_ok.mp h
  have again := picked_again product eol pinned picked
  have shown : follow.version ∈ gateway.visible follow versions := by
    rw [pinned]
    exact (Version.chosen_of_choose (choose_of_picked again)).candidate
  rw [outcome_resolve, outcome_checkEndOfLife shown, versions_congr gateway channel product, listed,
    product, eol, pinned]
  split
  · rfl
  · exact again

/-- Every link of a listing leads back to the version of the listing, except that a trial refuses
the links to a version past its end of life. -/
theorem follow_listed_links (backs : store.Backs answers) (honest : HonestCatalog answers)
    {base : String} {request : Request} {catalog : Catalog}
    (automate : request.product ≠ Supply.Records.automate)
    (h : (gateway.packages base request).outcome answers = .ok catalog) :
    ∃ version, (gateway.resolve (gateway.supply request) request).outcome answers = .ok version ∧
      ∀ record ∈ catalog.records, ∃ follow, Request.ofLink? base record.url = some follow ∧
        follow.version = version ∧
        (gateway.resolve (gateway.supply follow) follow).outcome answers =
          if gateway.persona = .trial ∧ request.eol = false ∧
              Product.endOfLife request.product version = true then
            .error (endOfLife follow)
          else .ok version := by
  unfold packages reported at h
  rw [Action.outcome_noting] at h
  obtain ⟨resolved, came, h⟩ := Action.outcome_bind_eq_ok.mp h
  obtain ⟨version, resolves, same⟩ := Action.outcome_bind_eq_ok.mp came
  cases same
  obtain ⟨listing, packages, h⟩ := Action.outcome_bind_eq_ok.mp h
  cases h
  refine ⟨version, resolves, ?_⟩
  obtain ⟨_, versions, listed, picked⟩ := outcome_resolve_eq_ok.mp resolves
  have bundle : request.product = platformProduct → version = "latest" :=
    fun product => latest_of_bundle product listed picked
  let pinned : Request := { request with version }
  have bears : Tree.All (Bears version) listing.tree :=
    @bears_packages _ _ _ backs honest pinned automate bundle listing packages
  intro record hrecord
  obtain ⟨target, original, horiginal, url⟩ := Catalog.mem_records_relinked hrecord
  obtain ⟨leaf, hleaf, rfl⟩ := Catalog.mem_records_iff.mp horiginal
  have named : (Catalog.requestFor pinned target leaf.2).version = version := by
    unfold Catalog.requestFor
    split
    · rfl
    · rename_i filled
      exact (Tree.all_iff_leaves.mp bears leaf hleaf).resolve_left filled
  refine ⟨Catalog.requestFor pinned target leaf.2, ?_, named,
    outcome_resolve_pinned resolves rfl rfl rfl named⟩
  rw [url]
  exact Request.ofLink?_link _ base

/-- A remote catalog with two versions of every product, neither of them supported for chef. -/
def agedAnswers : Answers
  | .versions .. => .ok ["14.15.6", "15.17.4"]
  | .packages .. => .ok (Tree.insert .empty "ubuntu" "20.04" "x86_64" {})
  | query => (⟨[]⟩ : Store).answers query

theorem agedAnswers_backs : Store.Backs ⟨[]⟩ agedAnswers := ⟨fun _ _ _ => rfl, fun _ _ => rfl⟩

theorem agedAnswers_honest : HonestCatalog agedAnswers := by
  intro channel product version tree listed leaf hleaf
  cases listed
  obtain rfl := List.mem_singleton.mp hleaf
  exact .inl rfl

def latestChef (eol : Bool) : Request := { channel := .stable, product := "chef", eol }

/-- The links of a listing that takes in what has ended are followed to the end. -/
theorem links_of_ended_chef : ∃ version,
    ((plain .trial).resolve ((plain .trial).supply (latestChef true)) (latestChef true)).outcome
        agedAnswers = .ok version ∧
      ∀ record ∈ (Catalog.relinked ⟨.byPlatformVersion,
          Tree.insert .empty "ubuntu" "20.04" "x86_64" {}⟩
          { latestChef true with version := "15.17.4" } "").records,
        ∃ follow, Request.ofLink? "" record.url = some follow ∧ follow.version = version ∧
          ((plain .trial).resolve ((plain .trial).supply follow) follow).outcome agedAnswers =
            if (plain .trial).persona = .trial ∧ (latestChef true).eol = false ∧
                Product.endOfLife (latestChef true).product version = true then
              .error (endOfLife follow)
            else .ok version :=
  follow_listed_links agedAnswers_backs agedAnswers_honest (by decide) rfl

/-- What the link of a trial's listing says. -/
def endedChef : Request where
  channel := .stable
  product := "chef"
  version := "15.17.4"
  platform := "ubuntu"
  platformVersion := "20.04"
  architecture := "x86_64"

/-- A trial is handed a link that it is then refused. -/
theorem trial_refuses_listed_link : ∃ catalog,
    ((plain .trial).packages "" (latestChef false)).outcome agedAnswers = .ok catalog ∧
      (∃ record ∈ catalog.records, Request.ofLink? "" record.url = some endedChef) ∧
      ((plain .trial).resolve ((plain .trial).supply endedChef) endedChef).outcome agedAnswers =
        .error (endOfLife endedChef) :=
  ⟨_, rfl, ⟨_, List.mem_singleton.mpr rfl, Request.ofLink?_link endedChef ""⟩, rfl⟩

end ReleaseGate.Gateway
