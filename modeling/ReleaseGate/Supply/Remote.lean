import ReleaseGate.Supply.Basic

/-! Products that a remote catalog knows. -/

namespace ReleaseGate.Supply.Remote

def code : String := "UPSTREAM"

def versions (request : Request) : Action (List String) := do
  .debug code ("fetching versions for " ++ request.product ++ " on " ++ request.channel.name)
  .get (.versions request.channel request.product)

def packages (request : Request) : Action Package.Catalog := do
  return ⟨.byPlatformVersion, ← .get (.packages request.channel request.product request.version)⟩

def metadata (request : Request) : Action Package.Record := do
  .ofExcept (request.demand [.platform, .platformVersion, .architecture])
  .get (.metadata request.channel request.product request.version request.platform
    request.platformVersion request.architecture)

/-- The last segment of a url's path. -/
def fileNameOf (url : String) : String :=
  let path := url.toList.takeWhile fun c => c != '?' && c != '#'
  String.ofList ((Text.pieces '/' path).getLast?.getD [])

/-- The url with a license, under the name that the package host has for it. -/
def withLicense (url license : String) : String :=
  if license = "" then url
  else
    url ++ (if url.toList.contains '?' then "&" else "?") ++ "licenseId=" ++
      Text.Percent.encode license

def fileName (request : Request) : Action String := do
  named (fileNameOf (← metadata request).url)

def download (request : Request) : Action Outcome := do
  let record ← metadata request
  if record.url = "" then .fail unnamedFile
  else
    if request.licenseId ≠ "" then
      .debug code ("redirect carries license " ++ Log.redact request.licenseId)
    return .redirect (withLicense record.url request.licenseId)

def supply : Supply where
  name := "upstream-proxy"
  latest request := .get (.latestVersion request.channel request.product)
  versions := versions
  packages := packages
  metadata := metadata
  fileName := fileName
  download := download

end ReleaseGate.Supply.Remote
