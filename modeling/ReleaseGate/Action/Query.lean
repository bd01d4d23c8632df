import ReleaseGate.Artifact
import ReleaseGate.Objects.Local
import ReleaseGate.Package.Catalog
import ReleaseGate.Portal.Customer
import ReleaseGate.Store.Basic

namespace ReleaseGate

/-- A question to one of the services behind the gateway: the store, the remote catalog, the
license service, the customer portal, the federation and the object store. -/
inductive Query where
  | item (table product version : String)
  | scan (table : String) (filter : Option (String × String))
  | products (eol : Bool)
  | platforms
  | architectures
  | latestVersion (channel : Channel) (product : String)
  | versions (channel : Channel) (product : String)
  | packages (channel : Channel) (product version : String)
  | metadata (channel : Channel) (product version platform platformVersion architecture : String)
  | validate (license : String)
  | customerEmail (license : String)
  | customers (email : String)
  | portalDownload (url installationId : String)
  | session (region : String)
  | assumeRole (session : Objects.Session) (role : String)
  | object (session : Objects.Session) (credentials : Objects.Credentials) (bucket key : String)
  deriving DecidableEq

/-- What answers the question, if nothing fails. -/
abbrev Query.Answer : Query → Type
  | item .. => Option Json
  | scan .. => List Json
  | products _ | architectures | versions .. => List String
  | platforms => Dict String
  | latestVersion .. | customerEmail _ => String
  | packages .. => Package.Tree Package.Record
  | metadata .. => Package.Record
  | validate _ => Bool
  | customers _ => List Portal.Customer
  | portalDownload .. => Artifact
  | session _ => Objects.Session
  | assumeRole .. => Objects.Credentials
  | object .. => Objects.Stored

end ReleaseGate
