import ReleaseGate.Store.Table
import ReleaseGate.Supply.Basic
import ReleaseGate.Version.Order

/-! Products whose releases are kept in the store, file by file. -/

namespace ReleaseGate.Supply.Records

open Store (FileRelease Table TargetFile)

def automate : String := "automate"

def habitat : String := "habitat"

/-- What is looked up for a request. -/
structure Lookup where
  channel : Channel
  version : String
  artifact : String
  byPlatformVersion : Bool
  deriving DecidableEq, Repr

/-- Of automate there is only its newest command line tool, which runs on any version of a
platform. -/
def lookup (request : Request) : Lookup :=
  if request.product = automate then ⟨.current, "latest", "chef-automate-cli", false⟩
  else ⟨request.channel, request.version, request.product, true⟩

def release (table : Table FileRelease) (request : Request) : Action FileRelease := do
  found (← table.get request.product (lookup request).version)

/-- The last file for the platform version asked for, or else the last for any. -/
def choose? (request : Request) (files : List TargetFile) : Option TargetFile :=
  let candidates := files.filter fun file =>
    file.platform = request.platform && file.architecture = request.architecture
  let exact := candidates.filter fun file =>
    (lookup request).byPlatformVersion && file.platformVersion = request.platformVersion
  exact.getLast?.or candidates.getLast?

def file (table : Table FileRelease) (request : Request) : Action TargetFile := do
  .ofExcept (request.demand [.platform, .architecture])
  found (choose? request (← release table request).files)

/-- The catalog of a release. Of files for one target the last counts. -/
def catalog (release : FileRelease) : Package.Catalog where
  layout := .byPlatformVersion
  tree := release.files.foldl (fun tree file =>
    tree.insert file.platform file.platformVersion file.architecture
      { sha1 := file.sha1, sha256 := file.sha256, version := release.version }) .empty

def latest (table : Table FileRelease) (request : Request) : Action String :=
  (table.latest request.product).noting "KV_LATEST" fun failure =>
    "latest version for " ++ request.product ++ " failed: " ++ failure.message

def versions (table : Table FileRelease) (request : Request) : Action (List String) := do
  return Version.ascending (← table.versions request.product)

def packages (table : Table FileRelease) (request : Request) : Action Package.Catalog := do
  return catalog (← release table request)

def metadata (table : Table FileRelease) (request : Request) : Action Package.Record := do
  let file ← file table request
  return { sha1 := file.sha1, sha256 := file.sha256, version := (lookup request).version }

def fileName (table : Table FileRelease) (request : Request) : Action String := do
  named (← file table request).filename

def url (root : String) (lookup : Lookup) (filename : String) : String :=
  Text.withoutEndSlashes root ++ "/" ++ lookup.channel.name ++ "/" ++ lookup.version ++ "/" ++
    lookup.artifact ++ "/" ++ filename

def download (table : Table FileRelease) (root : String) (request : Request) : Action Outcome := do
  let file ← file table request
  if file.filename = "" then .fail unnamedFile
  else
    let url := url root (lookup request) file.filename
    .info "KV_DOWNLOAD" ("redirecting " ++ request.product ++ " to " ++ url)
    return .redirect url

/-- Downloads are fetched from below `root`. -/
def supply (table : Table FileRelease) (root : String) : Supply where
  name := "key-value"
  latest := latest table
  versions := versions table
  packages := packages table
  metadata := metadata table
  fileName := fileName table
  download := download table root

end ReleaseGate.Supply.Records
