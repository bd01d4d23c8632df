import ReleaseGate.Proofs.Follow
import ReleaseGate.Proofs.Lookup
import ReleaseGate.Proofs.Shelf

/-! What a listing of packages says of a target, and what is said when the target is asked for. -/

namespace ReleaseGate

/-- The packages of a relinked catalog are those of the catalog, each with the link of the request
for it. -/
theorem Package.Catalog.packages_relinked (catalog : Catalog) (request : Request) (base : String) :
    (catalog.relinked request base).packages = catalog.packages.map fun (target, record) =>
      (target, { record with url := (requestFor request target record).link base }) := by
  unfold packages relinked
  simp only [update_eq, Tree.leaves_map, List.map_map]
  rfl

/-- What is looked for is found when it is there. -/
theorem Supply.outcome_bind_found {α : Type} {action : Action (Option α)} {value : α}
    {answers : Answers} :
    (action >>= found).outcome answers = .ok value ↔
      action.outcome answers = .ok (some value) := by
  rw [Action.outcome_bind_eq_ok]
  constructor
  · rintro ⟨_ | _, there, same⟩ <;> cases same
    exact there
  · intro there
    exact ⟨some value, there, rfl⟩

namespace Supply.Records

open Package (Tree)
open Store (FileRelease Table TargetFile)

/-- The last file for a target. -/
def last? (files : List TargetFile) (platform platformVersion architecture : String) :
    Option TargetFile :=
  (files.filter fun file => file.platform = platform ∧ file.platformVersion = platformVersion ∧
    file.architecture = architecture).getLast?

/-- What is recorded of a file, before it is linked. -/
def recordOf (version : String) (file : TargetFile) : Package.Record :=
  { sha1 := file.sha1, sha256 := file.sha256, version }

/-- Under a target of a release's catalog stands the record of its last file. -/
theorem get?_catalog (release : FileRelease) (platform platformVersion architecture : String) :
    (catalog release).tree.get? platform platformVersion architecture =
      (last? release.files platform platformVersion architecture).map
        (recordOf release.version) := by
  unfold catalog last?
  rw [Tree.get?_foldl_insert, Tree.get?_empty, Option.or_none]
  rfl

theorem last_of_mem_packages {release : FileRelease} {p pv m : String} {record : Package.Record}
    (h : (⟨p, some pv, m, none⟩, record) ∈ (catalog release).packages) :
    ∃ file, last? release.files p pv m = some file ∧ record = recordOf release.version file := by
  obtain ⟨⟨_, _⟩, leaf, same⟩ := List.mem_map.mp h
  cases same
  rw [Tree.mem_leaves_iff, get?_catalog] at leaf
  obtain ⟨file, last, same⟩ := Option.map_eq_some_iff.mp leaf
  exact ⟨file, last, same.symm⟩

variable {table : Table FileRelease} {request : Request} {answers : Answers} {file : TargetFile}

theorem outcome_release_eq_ok {release : FileRelease} :
    (Records.release table request).outcome answers = .ok release ↔
      (table.get request.product (lookup request).version).outcome answers =
        .ok (some release) :=
  outcome_bind_found

/-- The file that is chosen from a release is what a request for it finds. -/
theorem outcome_file {release : FileRelease} (platform : request.platform ≠ "")
    (architecture : request.architecture ≠ "")
    (got : (table.get request.product (lookup request).version).outcome answers =
      .ok (some release))
    (chosen : choose? request release.files = some file) :
    (Records.file table request).outcome answers = .ok file := by
  have demanded : request.demand [.platform, .architecture] = .ok () := by
    simp [Request.demand, Part.value, platform, architecture]
  have found := outcome_release_eq_ok.mpr got
  unfold Records.file
  rw [demanded]
  refine Action.outcome_bind_eq_ok.mpr ⟨(), rfl, Action.outcome_bind_eq_ok.mpr ⟨release, found, ?_⟩⟩
  rw [chosen]
  rfl

/-- A file without a name has none to give. -/
theorem outcome_fileName (found : (Records.file table request).outcome answers = .ok file) :
    (fileName table request).outcome answers =
      if file.filename = "" then .error unnamedFile else .ok file.filename := by
  unfold fileName named
  rw [Action.outcome_bind, found]
  dsimp only [Except.bind]
  split <;> rfl

theorem outcome_download {root : String}
    (found : (Records.file table request).outcome answers = .ok file) :
    (download table root request).outcome answers =
      if file.filename = "" then .error unnamedFile
      else .ok (.redirect (url root (lookup request) file.filename)) := by
  unfold download
  rw [Action.outcome_bind, found]
  dsimp only [Except.bind]
  split <;> rfl

end Supply.Records

namespace Gateway

open Package (Catalog Record Target Tree)
open Store (Backs FileRelease Table)

variable {gateway : Gateway} {store : Store} {answers : Answers}

/-- The version a request comes to depends neither on a target nor on a license. -/
theorem outcome_resolve_congr {request other : Request} (channel : other.channel = request.channel)
    (product : other.product = request.product) (version : other.version = request.version)
    (eol : other.eol = request.eol) :
    (gateway.resolve (gateway.supply other) other).outcome answers =
      (gateway.resolve (gateway.supply request) request).outcome answers := by
  rw [outcome_resolve, outcome_resolve, versions_congr gateway channel product]
  cases other
  cases channel
  cases product
  cases version
  cases eol
  rfl

/-- A listing is that of the version the request comes to. -/
theorem listing_of_packages {base : String} {request : Request} {catalog : Catalog}
    (h : (gateway.packages base request).outcome answers = .ok catalog) :
    ∃ version listing,
      (gateway.resolve (gateway.supply request) request).outcome answers = .ok version ∧
      ((gateway.supply request).packages { request with version }).outcome answers = .ok listing ∧
      catalog = listing.relinked { request with version } base := by
  unfold packages reported at h
  rw [Action.outcome_noting] at h
  obtain ⟨resolved, came, h⟩ := Action.outcome_bind_eq_ok.mp h
  obtain ⟨version, resolves, same⟩ := Action.outcome_bind_eq_ok.mp came
  cases same
  obtain ⟨listing, listed, h⟩ := Action.outcome_bind_eq_ok.mp h
  cases h
  exact ⟨version, listing, resolves, listed, rfl⟩

/-- The metadata of a request is that of the version it comes to, with its link. -/
theorem outcome_metadata_eq {base : String} {request : Request} {version : String}
    (resolves : (gateway.resolve (gateway.supply request) request).outcome answers = .ok version) :
    (gateway.metadata base request).outcome answers =
      (((gateway.supply request).metadata { request with version }).outcome answers).map
        (linked base { request with version }) := by
  have came : (gateway.resolved (gateway.supply request) request).outcome answers =
      .ok { request with version } :=
    Action.outcome_bind_eq_ok.mpr ⟨version, resolves, rfl⟩
  unfold metadata reported record
  rw [Action.outcome_noting, Action.outcome_bind, came]
  dsimp only [Except.bind]
  rw [Action.outcome_bind]
  cases ((gateway.supply request).metadata { request with version }).outcome answers <;> rfl

theorem outcome_metadata {base : String} {request : Request} {version : String} {record : Record}
    (resolves : (gateway.resolve (gateway.supply request) request).outcome answers = .ok version)
    (given : ((gateway.supply request).metadata { request with version }).outcome answers =
      .ok record) :
    (gateway.metadata base request).outcome answers =
      .ok (linked base { request with version } record) := by
  rw [outcome_metadata_eq resolves, given]
  rfl

theorem version_of_bears {version : String} {record : Record} (h : Bears version record) :
    (if record.version = "" then version else record.version) = version := by
  split
  · rfl
  · rename_i filled
    exact h.resolve_left filled

/-- A record of the version resolved to, or of none, is linked under that version. -/
theorem linked_of_bears {base : String} {resolved : Request} {record : Record}
    (h : Bears resolved.version record) : linked base resolved record =
      { record with version := resolved.version, url := resolved.link base } := by
  unfold linked
  rw [version_of_bears h]

theorem requestFor_of_bears {request : Request} {target : Target} {record : Record}
    (h : Bears request.version record) : Catalog.requestFor request target record =
      { request with
        platform := target.platform
        platformVersion := target.platformVersion.getD request.platformVersion
        architecture := target.architecture
        packageManager := target.packageManager.getD request.packageManager } := by
  unfold Catalog.requestFor
  rw [version_of_bears h]

variable {base : String} {request : Request} {p pv m : String} {record : Record}

/-- A build of habitat. -/
def build (sha1 filename : String) : Json :=
  .record [("architecture", .text "x86_64"), ("filename", .text filename),
    ("platform", .text "linux"), ("sha1", .text sha1)]

end Gateway

end ReleaseGate
