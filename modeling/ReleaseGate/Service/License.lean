import ReleaseGate.Http.Exchange
import ReleaseGate.Text.Blank

/-! The license service at `base`. -/

namespace ReleaseGate.Service.License

open Http (Exchange Reply)
open Json (Shape)

def backend : String := "license service"

def refused (reply : Reply) : Option Failure :=
  if reply.succeeded then none else some reply.refusal

def fetch {α : Type} (base path license content : String) (shape : Shape)
    (read : Json → Except Failure α) : Exchange α :=
  .document
    { url := Text.withoutEndSlashes base ++ path ++ "?" ++
        Text.Percent.query [("licenseId", license)]
      headers := [("accept", "application/json")] }
    (fun fault => .backend backend ("request to " ++ path ++ " failed: " ++ fault.text))
    refused
    (fun detail => .serialization ("Failed to decode " ++ content ++ ": " ++ detail))
    shape read

def verdictShape : Shape :=
  .record "ValidateResponse" [("data", false, .flag), ("message", false, .text)]

/-- A license is good or not; a message says why it is not. -/
def verdict (body : Json) : Except Failure Bool :=
  let valid := body.boolAt "data"
  let message := body.textAt "message"
  if !valid && message ≠ "" then .error (.unsupported message) else .ok valid

def validate (base license : String) : Exchange Bool :=
  fetch base "/v1/validate" license "license validation" verdictShape verdict

def emailShape : Shape :=
  .record "CustomerEmailResponse"
    [("replicatedEmail", false, .text), ("message", false, .text),
      ("status_code", false, .anything)]

/-- The number that decimal digits mean, if it fits into 16 bits. -/
def wordOfDigits? (digits : List Char) : Option Nat :=
  if digits.isEmpty || !digits.all Char.isDigit then none
  else
    let n := digits.foldl (fun n c => 10 * n + (c.toNat - 48)) 0
    if n < 65536 then some n else none

/-- A text is read without the white space around it. A plus sign may stand before the digits. -/
def statusOfText? (text : String) : Option Nat :=
  wordOfDigits? <|
    match Text.trimmed text.toList with
    | '+' :: rest => rest
    | other => other

/-- A status inside a reply is a number or a text. -/
def innerStatus? (body : Json) : Option Nat :=
  match body.field? "status_code" with
  | some (.number (.whole n)) => if n < 65536 then some n else none
  | some (.text text) => statusOfText? text
  | _ => none

def email (body : Json) : Except Failure String :=
  match (innerStatus? body).filter (· ≠ 200) with
  | some status =>
    .error (.backend backend ("customer lookup returned status " ++ toString status ++ ": " ++
      body.textAt "message"))
  | none =>
    if Text.blank (body.textAt "replicatedEmail") then
      .error (.backend backend "customer lookup returned no email")
    else .ok (body.textAt "replicatedEmail")

def customerEmail (base license : String) : Exchange String :=
  fetch base "/v1/getReplicatedCustomer" license "customer email response" emailShape email

end ReleaseGate.Service.License
