import ReleaseGate.Http.Exchange
import ReleaseGate.Package.Written

/-! The remote catalog at `base`. -/

namespace ReleaseGate.Service.Catalog

open Http (Exchange Reply)
open Json (Shape)

/-- What is not there is told apart from what is refused. -/
def refused (reply : Reply) : Option Failure :=
  if reply.status = 404 then
    some (.missing "Requested data is not found. Please check the input parameters")
  else if 400 ≤ reply.status ∧ reply.status < 600 then some reply.refusal
  else none

def url (base path : String) : String := Text.withoutEndSlashes base ++ path

def fetch {α : Type} (base path : String) (shape : Shape) (read : Json → α) : Exchange α :=
  let url := url base path
  .document { url, headers := [("accept", "application/json")] }
    (fun fault =>
      .backend "upstream catalog" ("request to " ++ url ++ " failed: " ++ fault.text))
    refused
    (fun detail =>
      .serialization ("Failed to decode catalog response from " ++ url ++ ": " ++ detail))
    shape (fun value => .ok (read value))

def textOf (value : Json) : String := value.text?.getD ""

def textsOf (value : Json) : List String := (value.list?.getD []).map textOf

def productsPath (eol : Bool) : String := if eol then "/products?eol=true" else "/products"

/-- What the catalog has for a product on a channel is below this path. -/
def productPath (channel : Channel) (product : String) : String :=
  "/" ++ channel.name ++ "/" ++ product

def latestPath (channel : Channel) (product : String) : String :=
  productPath channel product ++ "/versions/latest"

def versionsPath (channel : Channel) (product : String) : String :=
  productPath channel product ++ "/versions/all"

def packagesPath (channel : Channel) (product version : String) : String :=
  productPath channel product ++ "/packages?" ++ Text.Percent.query [("v", version)]

def metadataPath (channel : Channel)
    (product version platform platformVersion architecture : String) : String :=
  productPath channel product ++ "/metadata?" ++ Text.Percent.query
    [("v", version), ("p", platform), ("pv", platformVersion), ("m", architecture)]

def products (base : String) (eol : Bool) : Exchange (List String) :=
  fetch base (productsPath eol) (.list .text) textsOf

def platforms (base : String) : Exchange (Dict String) :=
  fetch base "/platforms" (.map .text) (Package.dictOfJson textOf)

def architectures (base : String) : Exchange (List String) :=
  fetch base "/architectures" (.list .text) textsOf

def latestVersion (base : String) (channel : Channel) (product : String) : Exchange String :=
  fetch base (latestPath channel product) .text textOf

def versions (base : String) (channel : Channel) (product : String) : Exchange (List String) :=
  fetch base (versionsPath channel product) (.list .text) textsOf

def packages (base : String) (channel : Channel) (product version : String) :
    Exchange (Package.Tree Package.Record) :=
  fetch base (packagesPath channel product version) (Package.Tree.shape Package.Record.shape)
    (Package.Tree.ofJson Package.Record.ofJson)

def metadata (base : String) (channel : Channel)
    (product version platform platformVersion architecture : String) : Exchange Package.Record :=
  fetch base (metadataPath channel product version platform platformVersion architecture)
    Package.Record.shape Package.Record.ofJson

end ReleaseGate.Service.Catalog
