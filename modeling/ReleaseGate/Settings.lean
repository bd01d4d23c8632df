import ReleaseGate.Persona
import ReleaseGate.Toml.Document

namespace ReleaseGate

/-- Who the deployment serves, and where it is reached. -/
structure GateSettings where
  persona : Persona := .commercial
  baseUrl : String := "http://localhost:3000"
  logFolder : Option String := none
  deriving DecidableEq, Repr

/-- Where a service is, and how many seconds it may take. -/
structure ServiceSettings where
  baseUrl : String
  timeout : Nat := 10
  deriving DecidableEq, Repr

structure PortalSettings where
  baseUrl : String := "https://api.replicated.com/vendor/v3"
  appId : String := ""
  token : String := ""
  downloadUrl : String := "https://replicated.app/embedded"
  timeout : Nat := 30
  deriving DecidableEq, Repr

/-- The file that fills the store, and the names of its tables. -/
structure StoreSettings where
  snapshot : Option String := none
  metadataTable : String := "metadata-details"
  currentTable : String := "package-details-current"
  stableTable : String := "package-details-stable"
  managersTable : String := "package-managers"
  deriving DecidableEq, Repr

structure ObjectSettings where
  region : String := ""
  bucket : String := ""
  role : String := ""
  currentPath : String := "current"
  stablePath : String := "stable"
  root : Option String := none
  lifetime : Int := 900
  deriving DecidableEq, Repr

structure ProductSettings where
  enterprise : List String := ["chef-ice", "migrate-ice"]
  enterpriseListed : Bool := true
  downloadRoot : String := "https://packages.chef.io/files"
  deriving DecidableEq, Repr

structure Settings where
  gate : GateSettings := {}
  catalog : ServiceSettings := { baseUrl := "https://omnitruck.chef.io" }
  license : ServiceSettings := { baseUrl := "http://localhost:8000" }
  portal : PortalSettings := {}
  store : StoreSettings := {}
  objects : ObjectSettings := {}
  products : ProductSettings := {}
  deriving DecidableEq, Repr

namespace ObjectSettings

/-- The settings that a download needs and that are blank. -/
def lacking (settings : ObjectSettings) : List String :=
  ([("region", settings.region), ("bucket", settings.bucket), ("role_arn", settings.role)].filter
    fun (_, value) => Text.blank value).map (·.1)

def check (settings : ObjectSettings) : Except Failure Unit :=
  if settings.lacking.isEmpty then .ok ()
  else
    .error (.config ("object store configuration is incomplete for download (missing " ++
      ", ".intercalate settings.lacking ++ ")"))

end ObjectSettings

def ProductSettings.isEnterprise (settings : ProductSettings) (product : String) : Bool :=
  settings.enterprise.contains product

namespace Settings

/-- The value of a field, or what stands for it when it is absent. -/
def field {α : Type} (fields : List (String × Toml)) (name : String) (read : Toml → Option α)
    (absent : α) : Option α :=
  match fields.lookup name with
  | some value => read value
  | none => some absent

def natural? (value : Toml) : Option Nat :=
  match value with
  | .integer n => if 0 ≤ n then some n.toNat else none
  | _ => none

def gate? (value : Toml) : Option GateSettings := do
  let base : GateSettings := {}
  let fields ← value.fields? ["persona", "base_url", "log_dir"]
  return {
    persona := ← field fields "persona" (fun v => v.choice?.bind Persona.ofName?) base.persona
    baseUrl := ← field fields "base_url" Toml.text? base.baseUrl
    logFolder := ← field fields "log_dir" (fun v => v.text?.map some) none }

def service? (base : ServiceSettings) (value : Toml) : Option ServiceSettings := do
  let fields ← value.fields? ["base_url", "timeout"]
  return {
    baseUrl := ← field fields "base_url" Toml.text? base.baseUrl
    timeout := ← field fields "timeout" natural? base.timeout }

def portal? (value : Toml) : Option PortalSettings := do
  let base : PortalSettings := {}
  let fields ← value.fields? ["base_url", "app_id", "token", "download_url", "timeout"]
  return {
    baseUrl := ← field fields "base_url" Toml.text? base.baseUrl
    appId := ← field fields "app_id" Toml.text? base.appId
    token := ← field fields "token" Toml.text? base.token
    downloadUrl := ← field fields "download_url" Toml.text? base.downloadUrl
    timeout := ← field fields "timeout" natural? base.timeout }

def store? (value : Toml) : Option StoreSettings := do
  let base : StoreSettings := {}
  let fields ← value.fields? ["snapshot", "metadata_table", "package_details_current_table",
    "package_details_stable_table", "package_managers_table"]
  return {
    snapshot := ← field fields "snapshot" (fun v => v.text?.map some) none
    metadataTable := ← field fields "metadata_table" Toml.text? base.metadataTable
    currentTable := ← field fields "package_details_current_table" Toml.text? base.currentTable
    stableTable := ← field fields "package_details_stable_table" Toml.text? base.stableTable
    managersTable := ← field fields "package_managers_table" Toml.text? base.managersTable }

def objects? (value : Toml) : Option ObjectSettings := do
  let base : ObjectSettings := {}
  let fields ← value.fields? ["region", "bucket", "role_arn", "current_path", "stable_path", "root",
    "credential_ttl_secs"]
  return {
    region := ← field fields "region" Toml.text? base.region
    bucket := ← field fields "bucket" Toml.text? base.bucket
    role := ← field fields "role_arn" Toml.text? base.role
    currentPath := ← field fields "current_path" Toml.text? base.currentPath
    stablePath := ← field fields "stable_path" Toml.text? base.stablePath
    root := ← field fields "root" (fun v => v.text?.map some) none
    lifetime := ← field fields "credential_ttl_secs" Toml.integer? base.lifetime }

def products? (value : Toml) : Option ProductSettings := do
  let base : ProductSettings := {}
  let fields ← value.fields? ["enterprise", "enterprise_enabled", "download_root"]
  return {
    enterprise := ← field fields "enterprise" Toml.texts? base.enterprise
    enterpriseListed := ← field fields "enterprise_enabled" Toml.bool? base.enterpriseListed
    downloadRoot := ← field fields "download_root" Toml.text? base.downloadRoot }

/-- The settings of a document. What it leaves out keeps its default; what it does not know of, it
ignores. -/
def ofToml? (document : Toml) : Option Settings := do
  let base : Settings := {}
  let fields ← document.fields? []
  return {
    gate := ← field fields "gateway" gate? base.gate
    catalog := ← field fields "upstream" (service? base.catalog) base.catalog
    license := ← field fields "license" (service? base.license) base.license
    portal := ← field fields "portal" portal? base.portal
    store := ← field fields "store" store? base.store
    objects := ← field fields "object_store" objects? base.objects
    products := ← field fields "products" products? base.products }

/-- The settings that a text in TOML holds. A gateway needs a place to be reached at. -/
def ofText (text : String) : Except Failure Settings :=
  match (Toml.ofText? text).bind ofToml? with
  | none => .error (.config "TOML parse error")
  | some settings =>
    if Text.blank settings.gate.baseUrl then
      .error (.config "gateway.base_url cannot be empty")
    else .ok settings

/-- A fault of the settings in a file names the file. -/
def ofFile (path text : String) : Except Failure Settings :=
  match ofText text with
  | .error (.config detail) => .error (.config (path ++ ": " ++ detail))
  | other => other

end Settings

end ReleaseGate
