import ReleaseGate.Proofs.Listed

/-! What a listing of packages for package managers says, and what is said when one of them is asked
for. -/

namespace ReleaseGate

namespace Supply.Bucket

open Store (ManagedFile ManagedRelease Table)

/-- What is recorded of a file, before it is linked. -/
def recordOf (version : String) (file : ManagedFile) : Package.Record :=
  { sha1 := file.sha1, sha256 := file.sha256, version }

/-- What a release's catalog lists is a file of the release. -/
theorem file_of_mem_packages {release : ManagedRelease} {p m pm : String} {record : Package.Record}
    (h : (⟨p, none, m, some pm⟩, record) ∈ (catalog release).packages) :
    ∃ file, release.files.get? p m pm = some file ∧ record = recordOf release.version file := by
  obtain ⟨⟨_, _⟩, leaf, same⟩ := List.mem_map.mp h
  cases same
  rw [Package.Tree.mem_leaves_iff] at leaf
  unfold catalog at leaf
  rw [Package.Tree.get?_foldl_insert, Package.Tree.get?_empty, Option.or_none] at leaf
  obtain ⟨⟨⟨a, b, c⟩, file⟩, last, same⟩ := Option.map_eq_some_iff.mp leaf
  obtain ⟨there, keys⟩ := List.mem_filter.mp (List.mem_of_getLast? last)
  obtain ⟨rfl, rfl, rfl⟩ := of_decide_eq_true keys
  exact ⟨file, Package.Tree.mem_leaves_iff.mp there, same.symm⟩

section Stored

variable {table : Table ManagedRelease} {request : Request} {answers : Answers}
  {release : ManagedRelease} {file : ManagedFile}

theorem outcome_release_eq_ok :
    (Bucket.release table request).outcome answers = .ok release ↔
      (table.get request.product request.version).outcome answers = .ok (some release) :=
  outcome_bind_found

variable (platform : request.platform ≠ "") (architecture : request.architecture ≠ "")
  (manager : request.packageManager ≠ "")
  (got : (table.get request.product request.version).outcome answers = .ok (some release))
  (there : release.files.get? request.platform request.architecture request.packageManager =
    some file)

include platform architecture manager got there

/-- A file that stands under the keys asked for is found, unless nothing is said about it. -/
theorem outcome_file :
    (Bucket.file table request).outcome answers =
      if file = {} then .error unknownProduct else .ok file := by
  have demanded : request.demand [.platform, .architecture, .packageManager] = .ok () := by
    simp [Request.demand, Part.value, platform, architecture, manager]
  have found := outcome_release_eq_ok.mpr got
  unfold Bucket.file choose?
  rw [demanded, Action.outcome_bind, Action.outcome_ofExcept]
  dsimp only [Except.bind]
  rw [Action.outcome_bind, found]
  dsimp only [Except.bind]
  rw [there, Option.filter_some]
  by_cases blank : file = {}
  · simp [blank, Supply.found]
  · simp [blank, Supply.found]

theorem outcome_metadata :
    (Bucket.metadata table request).outcome answers =
      if file = {} then .error unknownProduct else .ok (recordOf request.version file) := by
  unfold Bucket.metadata
  rw [Action.outcome_bind, outcome_file platform architecture manager got there]
  split <;> rfl

end Stored

end Supply.Bucket

namespace Gateway

open Package (Record)
open Store (Backs)

variable {gateway : Gateway} {store : Store} {answers : Answers} {base : String} {request : Request}
  {p m pm : String} {record : Record}

/-- A package that is listed has the metadata it is listed with, unless nothing is said about its
file: then it is listed and cannot be found. -/
theorem listed_managed_package (backs : store.Backs answers)
    (kept : gateway.FromBucket request.product) {catalog : Package.Catalog}
    (h : (gateway.packages base request).outcome answers = .ok catalog)
    (listed : (⟨p, none, m, some pm⟩, record) ∈ catalog.packages) (platform : p ≠ "")
    (architecture : m ≠ "") (manager : pm ≠ "") :
    let target := { request with platform := p, architecture := m, packageManager := pm }
    ∃ version release file,
      (gateway.resolve (gateway.supply target) target).outcome answers = .ok version ∧
      ((gateway.managedTable request.channel).get request.product version).outcome answers =
        .ok (some release) ∧
      release.files.get? p m pm = some file ∧
      record = { Supply.Bucket.recordOf version file with
        url := Request.link { target with version } base } ∧
      (gateway.metadata base target).outcome answers =
        if file = {} then .error Supply.unknownProduct else .ok record := by
  intro target
  obtain ⟨version, listing, resolves, packages, rfl⟩ := listing_of_packages h
  rw [supply_bucket kept] at packages
  obtain ⟨release, found, same⟩ := Action.outcome_bind_eq_ok.mp packages
  cases same
  have got := Supply.Bucket.outcome_release_eq_ok.mp found
  have bears : release.version = version :=
    Store.version_of_get backs Store.managedRelease_faithful got
  rw [Package.Catalog.packages_relinked] at listed
  obtain ⟨⟨_, original⟩, there, same⟩ := List.mem_map.mp listed
  cases same
  obtain ⟨file, stands, rfl⟩ := Supply.Bucket.file_of_mem_packages there
  rw [bears, requestFor_of_bears (.inr rfl)]
  have came : (gateway.resolve (gateway.supply target) target).outcome answers = .ok version := by
    rw [← resolves]
    exact outcome_resolve_congr rfl rfl rfl rfl
  have given : ((gateway.supply target).metadata { target with version }).outcome answers =
      if file = {} then .error Supply.unknownProduct
      else .ok (Supply.Bucket.recordOf version file) := by
    rw [show gateway.supply target = _ from supply_bucket kept]
    exact Supply.Bucket.outcome_metadata platform architecture manager got stands
  refine ⟨version, release, file, came, got, stands, rfl, ?_⟩
  rw [outcome_metadata_eq came, given]
  split
  · rfl
  · exact congrArg Except.ok (linked_of_bears (.inr rfl))

/-- A release with a file for one package manager, and for another a file about which nothing is
said. -/
def halfWritten : Store :=
  ⟨[("package-details-stable",
    [.record [("metadata", .record [("linux", .record [("x86_64", .record
        [("deb", .record [("sha1", .text "a1")]), ("rpm", .record [])])])]),
      ("product", .text "chef-ice"), ("version", .text "19.1.0")]])]⟩

def latestIce : Request := { channel := .stable, product := "chef-ice" }

def iceFor (manager : String) : Request :=
  { latestIce with platform := "linux", architecture := "x86_64", packageManager := manager }

/-- What is listed for a package manager. -/
def iceRecord (sha1 manager : String) : Record where
  sha1
  url := "/stable/chef-ice/download?v=19.1.0&p=linux&m=x86_64&pm=" ++ manager
  version := "19.1.0"

def iceCatalog : Package.Catalog where
  layout := .byPackageManager
  tree := (Package.Tree.insert .empty "linux" "x86_64" "deb" (iceRecord "a1" "deb")).insert
    "linux" "x86_64" "rpm" (iceRecord "" "rpm")

theorem packages_halfWritten :
    ((plain .commercial).packages "" latestIce).outcome halfWritten.answers = .ok iceCatalog := by
  rfl

theorem iceCatalog_packages : iceCatalog.packages =
    [(⟨"linux", none, "x86_64", some "deb"⟩, iceRecord "a1" "deb"),
      (⟨"linux", none, "x86_64", some "rpm"⟩, iceRecord "" "rpm")] := by
  rfl

theorem listed_deb_package :
    ((plain .commercial).metadata "" (iceFor "deb")).outcome halfWritten.answers =
      .ok (iceRecord "a1" "deb") := by
  have kept : (plain .commercial).FromBucket latestIce.product :=
    ⟨by decide, by decide, by decide⟩
  have listed : (⟨"linux", none, "x86_64", some "deb"⟩, iceRecord "a1" "deb") ∈
      iceCatalog.packages := by
    rw [iceCatalog_packages]
    exact List.mem_cons_self
  obtain ⟨_, _, file, -, -, -, same, metadata⟩ := listed_managed_package
    (Store.backs_answers halfWritten) kept packages_halfWritten listed
    (by decide) (by decide) (by decide)
  have sum : "a1" = file.sha1 := congrArg Record.sha1 same
  have written : file ≠ {} := by
    rintro rfl
    exact absurd sum (by decide)
  rw [if_neg written] at metadata
  exact metadata

/-- A package is listed and cannot be found. -/
theorem listed_rpm_unknown :
    ((plain .commercial).packages "" latestIce).outcome halfWritten.answers = .ok iceCatalog ∧
      (⟨"linux", none, "x86_64", some "rpm"⟩, iceRecord "" "rpm") ∈ iceCatalog.packages ∧
      ((plain .commercial).metadata "" (iceFor "rpm")).outcome halfWritten.answers =
        .error Supply.unknownProduct := by
  refine ⟨packages_halfWritten, ?_, rfl⟩
  rw [iceCatalog_packages]
  exact List.mem_cons_of_mem _ List.mem_cons_self

end Gateway

end ReleaseGate
