import ReleaseGate.Artifact
import ReleaseGate.Http.Exchange
import ReleaseGate.Portal.Customer
import ReleaseGate.Settings

/-! The customer portal. -/

namespace ReleaseGate.Service.Portal

open Http (Exchange Fault Reply)
open ReleaseGate.Portal (Customer)
open Json (Shape)

def backend : String := "customer portal"

def refused (reply : Reply) : Option Failure :=
  if reply.succeeded then none else some reply.refusal

/-- Customers of every kind are searched. -/
def searchBody (appId email : String) : String :=
  let yes (name : String) : String := "\"" ++ name ++ "\":true"
  "\x7b\"app_id\":" ++ Json.quotedText appId ++ "," ++
    ",".intercalate (["include_trial", "include_community", "include_paid", "include_dev",
      "include_active", "include_inactive"].map yes) ++
    ",\"query\":" ++ Json.quotedText ("email:" ++ email) ++ "\x7d"

def searchShape : Shape := .record "SearchResponse" [("customers", false, .list Customer.shape)]

def customers (settings : PortalSettings) (email : String) : Exchange (List Customer) :=
  .document
    { method := .post
      url := Text.withoutEndSlashes settings.baseUrl ++ "/customers/search"
      headers := [("accept", "application/json"), ("content-type", "application/json"),
        ("authorization", settings.token)]
      body := some (searchBody settings.appId email) }
    (fun fault => .backend backend ("customer search failed: " ++ fault.text))
    refused
    (fun detail => .serialization ("Failed to decode customer search: " ++ detail))
    searchShape (fun body => .ok ((body.listAt "customers").map Customer.ofJson))

/-- A header value of visible characters, blanks and tabs. -/
def isPlainValue (value : String) : Bool :=
  value.toList.all fun c => (0x20 ≤ c.toNat && c.toNat ≤ 0x7E) || c == '\t'

/-- Headers of one name stand together, where the first of them stood. -/
def grouped : List (String × String) → List (String × String)
  | [] => []
  | (name, value) :: rest =>
    let others := grouped rest
    (name, value) :: others.filter (·.1 = name) ++ others.filter (·.1 ≠ name)

/-- What the portal sent, with the headers that can be sent on. -/
def artifact (reply : Reply) : Artifact where
  status := reply.status
  headers := (grouped (reply.headers.map fun (name, value) => (Text.lowerAscii name, value))).filter
    fun (_, value) => isPlainValue value
  body :=
    { bytes := reply.content
      failure :=
        if reply.interrupted then
          some (.backend backend ("stream interrupted: " ++ Http.unreadable))
        else none }

/-- The artifact at `url`, for the installation of a customer. -/
def download (url installationId : String) : Exchange Artifact where
  call := { url, headers := [("authorization", "Bearer " ++ installationId), ("accept", "*/*")] }
  outcome
    | .error fault => .error (.backend backend ("artifact request failed: " ++ fault.text))
    | .ok reply =>
      match refused reply with
      | some failure => .error failure
      | none => .ok (artifact reply)

end ReleaseGate.Service.Portal
