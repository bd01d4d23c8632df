import ReleaseGate.Failure
import ReleaseGate.Text.Percent
import ReleaseGate.Text.Pieces

namespace ReleaseGate

/-- A release track. -/
inductive Channel where
  | stable
  | current
  deriving DecidableEq, Repr

namespace Channel

def name : Channel → String
  | stable => "stable"
  | current => "current"

def ofName (name : String) : Except Failure Channel :=
  if name = "stable" then .ok stable
  else if name = "current" then .ok current
  else .error (.validation "channel" "Channel can only be stable or current")

end Channel

/-- No version and the word `latest` both ask for the newest release. -/
def wantsLatest (version : String) : Bool := version = "" || version = "latest"

/-- What a caller asked about. An empty text is a part the caller left out. -/
structure Request where
  channel : Channel
  product : String
  version : String := ""
  platform : String := ""
  platformVersion : String := ""
  architecture : String := ""
  packageManager : String := ""
  licenseId : String := ""
  eol : Bool := false
  deriving DecidableEq, Repr

/-- A part of a request that an operation may demand. -/
inductive Part where
  | platform
  | platformVersion
  | architecture
  | packageManager
  deriving DecidableEq, Repr

namespace Part

def key : Part → String
  | platform => "p"
  | platformVersion => "pv"
  | architecture => "m"
  | packageManager => "pm"

def title : Part → String
  | platform => "Platform"
  | platformVersion => "Platform Version"
  | architecture => "Architecture"
  | packageManager => "Package Manager"

def value (request : Request) : Part → String
  | platform => request.platform
  | platformVersion => request.platformVersion
  | architecture => request.architecture
  | packageManager => request.packageManager

def absent (part : Part) : Failure :=
  .validation part.key (part.title ++ " (" ++ part.key ++ ") params cannot be empty")

end Part

namespace Request

/-- The first of the parts that is missing is the failure. -/
def demand (request : Request) : List Part → Except Failure Unit
  | [] => .ok ()
  | part :: rest =>
    if part.value request = "" then .error part.absent else request.demand rest

def metadataMark : String := ".metadata.json"

/-- The text without its first metadata mark, if it has one. -/
def unmarked? (text : String) : Option String :=
  (Text.without? metadataMark.toList text.toList).map String.ofList

/-- The request for the artifact itself, if this one asks for its metadata document. The mark is
looked for in the architecture, the platform, the platform version and the version, in this
order, and taken from the first that holds one. -/
def takeMetadataMark? (request : Request) : Option Request :=
  match unmarked? request.architecture with
  | some architecture => some { request with architecture }
  | none =>
    match unmarked? request.platform with
    | some platform => some { request with platform }
    | none =>
      match unmarked? request.platformVersion with
      | some platformVersion => some { request with platformVersion }
      | none => (unmarked? request.version).map fun version => { request with version }

/-- The parts of a link's query; what the caller left out is left out. -/
def queryPairs (request : Request) : List (String × String) :=
  [("v", request.version), ("p", request.platform), ("pv", request.platformVersion),
      ("m", request.architecture), ("pm", request.packageManager)].filter (·.2 ≠ "") ++
    (if request.eol then [("eol", "true")] else []) ++
    (if request.licenseId = "" then [] else [("license_id", request.licenseId)])

/-- The download link of the request on the gateway at `base`. -/
def link (request : Request) (base : String) : String :=
  let path := Text.withoutEndSlashes base ++ "/" ++ request.channel.name ++ "/" ++
    Text.Percent.encode request.product ++ "/download"
  let query := Text.Percent.query request.queryPairs
  if query = "" then path else path ++ "?" ++ query

end Request

end ReleaseGate
