import ReleaseGate.Supply.Choice
import ReleaseGate.Version.Choice

namespace ReleaseGate

/-- A deployment: its settings, and the place below which the portal's customers find their
channels. -/
structure Gateway where
  settings : Settings
  portalRoot : String

namespace Gateway

variable (gateway : Gateway)

def persona : Persona := gateway.settings.gate.persona

def supply (request : Request) : Supply :=
  Supply.choose gateway.settings gateway.portalRoot request.product request.channel

/-- A failed operation is logged with its detail. -/
def reported {α : Type} (operation : String) (action : Action α) : Action α :=
  action.noting "GATEWAY" fun failure =>
    operation ++ " failed (" ++ toString failure.status ++ "): " ++ failure.message

/-- The versions of a product that the persona may have. -/
def visible (request : Request) (versions : List String) : List String :=
  gateway.persona.visibleVersions versions request.product request.eol

def endOfLife (request : Request) : Failure :=
  .validation "v" (request.product ++ " version " ++ request.version ++ " is EOL, must be " ++
    Product.supportedText request.product)

/-- A version past its end of life is asked for with the word for it, or not at all. -/
def checkEndOfLife (request : Request) : Action Unit :=
  if gateway.persona = .opensource || request.eol || wantsLatest request.version then pure ()
  else if Product.endOfLife request.product request.version then .fail (endOfLife request)
  else pure ()

/-- The version a request comes to, among those that the persona may have. -/
def resolve (supply : Supply) (request : Request) : Action String := do
  gateway.checkEndOfLife request
  let versions ← supply.versions request
  if versions.isEmpty then .fail .noCandidates
  else
    let visible := gateway.visible request versions
    if visible.isEmpty then .fail .noneVisible
    else
      let version ← .ofExcept (Version.choose request.version visible)
      .debug "RESOLVE" (request.product ++ " " ++ Text.quoted request.version ++ " resolved to " ++
        version ++ " via " ++ supply.name)
      return version

def resolved (supply : Supply) (request : Request) : Action Request := do
  return { request with version := ← gateway.resolve supply request }

/-- The newest version if the persona may have it, or else the newest it may have. -/
def latestVersion (request : Request) : Action String :=
  reported "latest_version" do
    let supply := gateway.supply request
    let latest ← supply.latest request
    if (gateway.visible request [latest]).contains latest then return latest
    else gateway.resolve supply { request with version := "" }

def allVersions (request : Request) : Action (List String) :=
  reported "all_versions" do
    let visible := gateway.visible request (← (gateway.supply request).versions request)
    if visible.isEmpty then .fail .noneVisible else return visible

/-- The packages of the resolved version, with links to the gateway at `base`. -/
def packages (base : String) (request : Request) : Action Package.Catalog :=
  reported "packages" do
    let supply := gateway.supply request
    let resolved ← gateway.resolved supply request
    let catalog ← supply.packages resolved
    .info "PACKAGES" (resolved.product ++ " " ++ resolved.version ++ " -> " ++
      toString catalog.size ++ " packages")
    return catalog.relinked resolved base

/-- The record of a package with a link to the gateway at `base`. -/
def linked (base : String) (resolved : Request) (record : Package.Record) : Package.Record :=
  let version := if record.version = "" then resolved.version else record.version
  { record with version, url := { resolved with version }.link base }

def record (base : String) (request : Request) : Action Package.Record := do
  let supply := gateway.supply request
  let resolved ← gateway.resolved supply request
  return linked base resolved (← supply.metadata resolved)

def metadata (base : String) (request : Request) : Action Package.Record :=
  reported "metadata" (gateway.record base request)

def fileName (request : Request) : Action String :=
  reported "file_name" do
    let supply := gateway.supply request
    supply.fileName (← gateway.resolved supply request)

def checkLicense (license : String) : Action Unit := do
  if ← .get (.validate license) then
    .debug "LICENSE" ("license " ++ Log.redact license ++ " valid")
  else
    .warn "LICENSE" ("license " ++ Log.redact license ++ " rejected")
    .fail (.validation "license_id" "License id is not valid")

/-- The license of a bundle is checked before anything else. -/
def needsLicenseCheck (request : Request) : Bool :=
  gateway.persona = .commercial && request.product = platformProduct && request.licenseId ≠ ""

def artifact (request : Request) : Action Outcome := do
  if gateway.needsLicenseCheck request then checkLicense request.licenseId
  let supply := gateway.supply request
  let resolved ← gateway.resolved supply request
  let outcome ← supply.download resolved
  if let .redirect url := outcome then
    .info "DOWNLOAD" (resolved.product ++ " " ++ resolved.version ++ " redirect " ++ url)
  return outcome

/-- A package, or its metadata when the request is marked so. -/
def download (base : String) (request : Request) : Action Outcome :=
  reported "download" do
    match request.takeMetadataMark? with
    | some request => return .metadata (← gateway.record base request)
    | none => gateway.artifact request

/-- The product that automate replaced. -/
def retired : String := "automate-1"

/-- The products of the remote catalog and those that come from elsewhere. -/
def offered (settings : ProductSettings) (eol : Bool) (remote : List String) : List String :=
  let known := remote ++ Supply.recorded ++ if eol then [retired] else []
  Dict.distinct (if settings.enterpriseListed then known ++ settings.enterprise
    else known.filter (!settings.isEnterprise ·))

def products (eol : Bool) : Action (List String) :=
  reported "products" do
    let remote ← Action.get (.products eol)
    return gateway.persona.visibleProducts (offered gateway.settings.products eol remote) eol

/-- The platforms of the products that the store has records of. -/
def recordedPlatforms : List (String × String) :=
  [("linux", "Linux"), ("linux-kernel2", "Linux Kernel 2"), ("darwin", "Darwin")]

def platforms : Action (Dict String) :=
  reported "platforms" do
    let remote ← Action.get .platforms
    return recordedPlatforms.foldl (fun all (id, name) => Dict.insert all id name) remote

def architectures : Action (List String) := reported "architectures" (.get .architectures)

def packageManagers : Action (List String) :=
  reported "package_managers" (Store.packageManagers gateway.settings.store.managersTable)

end Gateway

end ReleaseGate
