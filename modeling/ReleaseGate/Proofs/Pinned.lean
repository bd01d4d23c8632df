import ReleaseGate.Proofs.Listed

/-! What a listing of automate says of a target, and what a request for the target is given. -/

namespace ReleaseGate.Supply.Records

open Store (FileRelease Table TargetFile)

/-- What is looked up for automate, whatever is requested. -/
def cli : Lookup := ⟨.current, "latest", "chef-automate-cli", false⟩

theorem lookup_automate {request : Request} (product : request.product = automate) :
    lookup request = cli := by
  unfold lookup
  rw [if_pos product]
  rfl

/-- The last file for a platform and architecture, on any version of the platform. -/
def lastOnAny? (files : List TargetFile) (platform architecture : String) : Option TargetFile :=
  (files.filter fun file => file.platform = platform ∧ file.architecture = architecture).getLast?

variable {files : List TargetFile} {p pv m : String} {file : TargetFile}

/-- Where a file is listed for a target, some file is the last on any version of the platform. -/
theorem lastOnAny_of_last (h : last? files p pv m = some file) :
    ∃ served, lastOnAny? files p m = some served := by
  obtain ⟨there, fits⟩ := List.mem_filter.mp (List.mem_of_getLast? h)
  obtain ⟨platform, -, architecture⟩ := of_decide_eq_true fits
  apply Option.ne_none_iff_exists'.mp
  intro missing
  have empty := List.getLast?_eq_none_iff.mp missing
  have member : file ∈ files.filter fun file => file.platform = p ∧ file.architecture = m :=
    List.mem_filter.mpr ⟨there, decide_eq_true ⟨platform, architecture⟩⟩
  rw [empty] at member
  cases member

/-- The last file on any version of a platform is the last on its own. -/
theorem last_of_lastOnAny (h : lastOnAny? files p m = some file) :
    last? files p file.platformVersion m = some file := by
  obtain ⟨front, split⟩ := List.getLast?_eq_some_iff.mp h
  have narrowed : (files.filter fun other => other.platform = p ∧
        other.platformVersion = file.platformVersion ∧ other.architecture = m) =
      (files.filter fun other => other.platform = p ∧ other.architecture = m).filter
        (·.platformVersion = file.platformVersion) := by
    rw [List.filter_filter]
    congr 1
    funext other
    rw [Bool.eq_iff_iff]
    simp only [Bool.and_eq_true, decide_eq_true_eq]
    exact and_left_comm
  unfold last?
  rw [narrowed, split, List.filter_append]
  simp

/-- Where the platform version does not count, the last file on any is chosen. -/
theorem choose?_lastOnAny {request : Request} (any : (lookup request).byPlatformVersion = false)
    (files : List TargetFile) :
    choose? request files = lastOnAny? files request.platform request.architecture := by
  unfold choose? lastOnAny?
  simp only [any, Bool.false_and, List.filter_false, List.getLast?_nil, Option.none_or,
    Bool.decide_and]

variable {name : String} {request : Request} {store : Store} {answers : Answers}
  {record : Package.Record}

/-- What is listed for a target of automate is the last file stored for it. A request for the
target is given the last file on any version of the platform, which is the listed one if it is for
the version of the platform asked for. -/
theorem listed_automate (root : String) (backs : store.Backs answers)
    (product : request.product = automate) {catalog : Package.Catalog}
    (h : (packages ⟨name, FileRelease.model⟩ request).outcome answers = .ok catalog)
    (listed : (⟨p, some pv, m, none⟩, record) ∈ catalog.packages) :
    let table : Table FileRelease := ⟨name, FileRelease.model⟩
    let target := { request with platform := p, platformVersion := pv, architecture := m }
    ∃ release file served,
      (table.get automate "latest").outcome answers = .ok (some release) ∧
      last? release.files p pv m = some file ∧ record = recordOf "latest" file ∧
      lastOnAny? release.files p m = some served ∧
      (served.platformVersion = pv → served = file) ∧
      (p ≠ "" → m ≠ "" →
        (metadata table target).outcome answers = .ok (recordOf "latest" served) ∧
        (download table root target).outcome answers =
          if served.filename = "" then .error unnamedFile
          else .ok (.redirect (url root cli served.filename))) := by
  intro table target
  obtain ⟨release, found, same⟩ := Action.outcome_bind_eq_ok.mp h
  cases same
  have got : (table.get request.product (lookup request).version).outcome answers =
      .ok (some release) := outcome_release_eq_ok.mp found
  obtain ⟨file, last, rfl⟩ := last_of_mem_packages listed
  obtain ⟨served, lastly⟩ := lastOnAny_of_last last
  have looked : lookup target = cli := lookup_automate product
  have pinned : (table.get automate "latest").outcome answers = .ok (some release) := by
    rw [product, lookup_automate product] at got
    exact got
  have version : release.version = "latest" :=
    Store.version_of_get backs Store.fileRelease_faithful pinned
  refine ⟨release, file, served, pinned, last, by rw [version], lastly, ?_, ?_⟩
  · rintro rfl
    rw [last_of_lastOnAny lastly] at last
    exact Option.some_inj.mp last
  · intro platform architecture
    have given : (Records.file table target).outcome answers = .ok served := by
      refine outcome_file platform architecture got ?_
      rw [choose?_lastOnAny (by rw [looked]; rfl)]
      exact lastly
    constructor
    · refine Action.outcome_bind_eq_ok.mpr ⟨served, given, ?_⟩
      rw [looked]
      rfl
    · rw [outcome_download given, looked]

/-- A build of the command line tool. -/
def cliFile (platform platformVersion filename sha1 : String) : Json :=
  .record [("architecture", .text "amd64"), ("filename", .text filename),
    ("platform", .text platform), ("platform_version", .text platformVersion),
    ("sha1", .text sha1)]

/-- Builds for two versions of a platform, and one for another platform that has no name. -/
def cliStore : Store :=
  ⟨[("metadata-details",
    [.record [("metadata", .list [cliFile "linux" "7" "seven.zip" "a1",
        cliFile "linux" "8" "eight.zip" "b2", cliFile "darwin" "14" "" "c3"]),
      ("product", .text "automate"), ("version", .text "latest")]])]⟩

def cliTable : Table FileRelease := ⟨"metadata-details", FileRelease.model⟩

def automateFor (platform platformVersion : String) : Request where
  channel := .stable
  product := "automate"
  platform
  platformVersion
  architecture := "amd64"

def cliRecord (sha1 : String) : Package.Record := { sha1, version := "latest" }

/-- What is listed of the builds. -/
def cliCatalog : Package.Catalog where
  tree := ((Package.Tree.insert .empty "linux" "7" "amd64" (cliRecord "a1")).insert
    "linux" "8" "amd64" (cliRecord "b2")).insert "darwin" "14" "amd64" (cliRecord "c3")

theorem packages_cliStore (platform platformVersion : String) :
    (packages cliTable (automateFor platform platformVersion)).outcome cliStore.answers =
      .ok cliCatalog := by
  rfl

theorem cliCatalog_packages : cliCatalog.packages =
    [(⟨"darwin", some "14", "amd64", none⟩, cliRecord "c3"),
      (⟨"linux", some "7", "amd64", none⟩, cliRecord "a1"),
      (⟨"linux", some "8", "amd64", none⟩, cliRecord "b2")] := by
  rfl

/-- The build for version 8 as it is read from the store. -/
def eight : TargetFile where
  architecture := "amd64"
  filename := "eight.zip"
  platform := "linux"
  platformVersion := "8"
  sha1 := "b2"

/-- The later build is listed and given for its own version of the platform. -/
theorem listed_latest_build : ∃ release,
    (cliTable.get automate "latest").outcome cliStore.answers = .ok (some release) ∧
      last? release.files "linux" "8" "amd64" = some eight ∧
      cliRecord "b2" = recordOf "latest" eight ∧
      lastOnAny? release.files "linux" "amd64" = some eight ∧
      (metadata cliTable (automateFor "linux" "8")).outcome cliStore.answers =
        .ok (cliRecord "b2") ∧
      (download cliTable "" (automateFor "linux" "8")).outcome cliStore.answers =
        .ok (.redirect "/current/latest/chef-automate-cli/eight.zip") := by
  have listed : (⟨"linux", some "8", "amd64", none⟩, cliRecord "b2") ∈ cliCatalog.packages := by
    simp [cliCatalog_packages]
  obtain ⟨release, file, served, got, last, recorded, lastly, own, given⟩ :=
    listed_automate "" (Store.backs_answers cliStore) rfl (packages_cliStore "linux" "8") listed
  obtain ⟨described, redirected⟩ := given (by decide) (by decide)
  cases got
  obtain rfl : eight = served := Option.some_inj.mp lastly
  obtain rfl : eight = file := own rfl
  exact ⟨_, rfl, last, recorded, lastly, described, redirected⟩

/-- For another version of the platform the later build is given and not the listed one, and a
build without a name cannot be downloaded. -/
theorem given_other_build :
    (packages cliTable (automateFor "linux" "7")).outcome cliStore.answers = .ok cliCatalog ∧
      (⟨"linux", some "7", "amd64", none⟩, cliRecord "a1") ∈ cliCatalog.packages ∧
      (metadata cliTable (automateFor "linux" "7")).outcome cliStore.answers =
        .ok (cliRecord "b2") ∧
      (download cliTable "" (automateFor "linux" "7")).outcome cliStore.answers =
        .ok (.redirect "/current/latest/chef-automate-cli/eight.zip") ∧
      (⟨"darwin", some "14", "amd64", none⟩, cliRecord "c3") ∈ cliCatalog.packages ∧
      (download cliTable "" (automateFor "darwin" "14")).outcome cliStore.answers =
        .error unnamedFile := by
  refine ⟨packages_cliStore "linux" "7", ?_, rfl, rfl, ?_, rfl⟩
  · simp [cliCatalog_packages]
  · simp [cliCatalog_packages]

end ReleaseGate.Supply.Records
