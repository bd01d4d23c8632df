import ReleaseGate.Settings
import ReleaseGate.Store.Table
import ReleaseGate.Supply.Basic
import ReleaseGate.Version.Order

/-! Products whose releases are kept in the store and whose files are kept in a bucket. -/

namespace ReleaseGate.Supply.Bucket

open Store (ManagedFile ManagedRelease Table)

def release (table : Table ManagedRelease) (request : Request) : Action ManagedRelease := do
  found (← table.get request.product request.version)

/-- A file about which nothing is said counts as none. -/
def choose? (request : Request) (release : ManagedRelease) : Option ManagedFile :=
  (release.files.get? request.platform request.architecture request.packageManager).filter
    (· ≠ {})

def file (table : Table ManagedRelease) (request : Request) : Action ManagedFile := do
  .ofExcept (request.demand [.platform, .architecture, .packageManager])
  found (choose? request (← release table request))

def catalog (release : ManagedRelease) : Package.Catalog where
  layout := .byPackageManager
  tree := release.files.leaves.foldl (fun tree ((platform, architecture, manager), file) =>
    tree.insert platform architecture manager
      { sha1 := file.sha1, sha256 := file.sha256, version := release.version }) .empty

def latest (table : Table ManagedRelease) (request : Request) : Action String :=
  (table.latest request.product).noting "OBJECT_LATEST" fun failure =>
    "latest version for " ++ request.product ++ " from " ++ table.name ++ " failed: " ++
      failure.message

def versions (table : Table ManagedRelease) (request : Request) : Action (List String) := do
  return Version.ascending (← table.versions request.product)

def packages (table : Table ManagedRelease) (request : Request) : Action Package.Catalog := do
  return catalog (← release table request)

def metadata (table : Table ManagedRelease) (request : Request) : Action Package.Record := do
  let file ← file table request
  return { sha1 := file.sha1, sha256 := file.sha256, version := request.version }

def fileName (table : Table ManagedRelease) (request : Request) : Action String := do
  named (← file table request).filename

def channelPath (settings : ObjectSettings) : Channel → String
  | .current => settings.currentPath
  | .stable => settings.stablePath

/-- The key of a file: channel path, product, version, platform, architecture and file name. What
is empty is skipped, so a key never starts with a slash. -/
def key (settings : ObjectSettings) (request : Request) (filename : String) : String :=
  "/".intercalate (([channelPath settings request.channel, request.product, request.version,
    request.platform, request.architecture, filename].map Text.withoutOuterSlashes).filter (· ≠ ""))

/-- What is sent along with an object. -/
def artifact (object : Objects.Stored) (filename : String) : Artifact :=
  let bare : Artifact := { status := 200, body := object.body }
  let typed := match object.contentType with
    | some type => bare.setHeader "content-type" type
    | none => bare
  let measured := match object.contentLength with
    | some length => typed.setHeader "content-length" (toString length)
    | none => typed
  measured.setHeader "content-disposition"
    (object.contentDisposition.getD ("attachment; filename=" ++ filename))

def code : String := "OBJECT_DOWNLOAD"

/-- An object is fetched with the credentials of a role, in a session of its region. -/
def fetch (settings : ObjectSettings) (request : Request) (filename : String) :
    Action Artifact := do
  let key := key settings request filename
  .debug code ("object key " ++ key)
  let session ← (Action.get (.session settings.region)).noting code
    ("session creation failed: " ++ ·.message)
  let credentials ← (Action.get (.assumeRole session settings.role)).noting code
    ("role assumption failed: " ++ ·.message)
  let object ← (Action.get (.object session credentials settings.bucket key)).noting code
    ("object fetch failed: " ++ ·.message)
  return artifact object filename

def download (table : Table ManagedRelease) (settings : ObjectSettings) (request : Request) :
    Action Outcome := do
  (Action.ofExcept settings.check).noting code ("invalid object store config: " ++ ·.message)
  let filename ← fileName table request
  .info code ("downloading " ++ filename ++ " from bucket " ++ settings.bucket ++ " in region " ++
    settings.region)
  return .stream (← fetch settings request filename)

def supply (table : Table ManagedRelease) (settings : ObjectSettings) : Supply where
  name := "object-store"
  latest := latest table
  versions := versions table
  packages := packages table
  metadata := metadata table
  fileName := fileName table
  download := download table settings

end ReleaseGate.Supply.Bucket
