import ReleaseGate.Persona
import ReleaseGate.Supply.Basic

/-! The platform bundle. It has one version and is handed out to the customers of the portal. -/

namespace ReleaseGate.Supply.Platform

def code : String := "PLATFORM_DOWNLOAD"

/-- Only the commercial persona has the bundle. -/
def guard (persona : Persona) : Action Unit :=
  if persona = .commercial then pure ()
  else .fail (.unsupported "chef-360 not available for the trial and opensource")

def versionOf (request : Request) : String :=
  if request.version = "" then "latest" else request.version

def record (request : Request) : Package.Record := { version := versionOf request }

/-- The failure of a step is logged; the caller learns only which step it was. -/
def step {α : Type} (step : Step) (action : Action α) : Action α :=
  action.orElse fun failure => do
    .error code (step.name ++ " failed: " ++ failure.message)
    .fail (.entitlement step)

/-- A step that found nothing. -/
def refuse {α : Type} (step : Step) (message : String) : Action α := do
  .error code message
  .fail (.entitlement step)

def customer (license : String) : Action Portal.Customer := do
  let email ← step .licenseLookup (.get (.customerEmail license))
  .debug code "customer email resolved"
  match ← step .customerSearch (.get (.customers email)) with
  | [] => refuse .customerNotFound "no customer matches the license email"
  | customer :: _ => return customer

/-- From the license to the customer, to the place of the customer's channel, to the artifact. -/
def fetch (portalRoot license : String) : Action Artifact := do
  let customer ← customer license
  match customer.downloadUrl? portalRoot with
  | none => refuse .channelMissing ("customer " ++ customer.id ++ " has no channel slugs")
  | some url =>
    .info code ("download url formulated for customer " ++ customer.id)
    let artifact ← step .artifactFetch (.get (.portalDownload url customer.installationId))
    return artifact.defaultHeader "content-disposition" "attachment;filename=chef-360.tar.gz"

def download (portalRoot : String) (request : Request) : Action Outcome := do
  if request.licenseId = "" then
    .fail (.validation "license_id" "License id (license_id) params cannot be empty")
  else
    .info code ("starting entitled download for license " ++ Log.redact request.licenseId)
    return .stream (← fetch portalRoot request.licenseId)

def catalog (request : Request) : Package.Catalog where
  layout := .byPlatformVersion
  tree := Package.Tree.insert .empty "linux" "pv" "amd64" (record request)

/-- Customers find their channels below `portalRoot`. -/
def supply (persona : Persona) (portalRoot : String) : Supply where
  name := "platform-service"
  latest _ := do
    guard persona
    return "latest"
  versions _ := do
    guard persona
    return ["latest"]
  packages request := do
    guard persona
    return catalog request
  metadata request := do
    guard persona
    return record request
  fileName _ := do
    guard persona
    return platformProduct ++ ".zip"
  download request := do
    guard persona
    download portalRoot request

end ReleaseGate.Supply.Platform
