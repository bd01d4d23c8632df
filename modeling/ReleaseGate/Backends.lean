import ReleaseGate.Action.Basic
import ReleaseGate.Host.Basic
import ReleaseGate.Service.Catalog
import ReleaseGate.Service.License
import ReleaseGate.Service.Portal

namespace ReleaseGate

/-- What stands behind a deployment: a store, three services, a federation, and objects in folders
below `root`. -/
structure Backends where
  settings : Settings
  store : Store
  federation : Objects.Federation
  root : String

namespace Backends

variable {m : Type → Type} [Monad m]

/-- A machine cannot tell times beyond the calendar. -/
inductive Crash where
  | timeOutOfRange
  deriving DecidableEq, Repr

/-- The answer of the backends to a question. -/
def answer (backends : Backends) (host : Host m) :
    (query : Query) → ExceptT Crash m (Except Failure query.Answer)
  | .item table product version => pure (.ok (backends.store.item? table product version))
  | .scan table filter => pure (.ok (backends.store.scan table filter))
  | .products eol => run (Service.Catalog.products backends.settings.catalog.baseUrl eol)
  | .platforms => run (Service.Catalog.platforms backends.settings.catalog.baseUrl)
  | .architectures => run (Service.Catalog.architectures backends.settings.catalog.baseUrl)
  | .latestVersion channel product =>
    run (Service.Catalog.latestVersion backends.settings.catalog.baseUrl channel product)
  | .versions channel product =>
    run (Service.Catalog.versions backends.settings.catalog.baseUrl channel product)
  | .packages channel product version =>
    run (Service.Catalog.packages backends.settings.catalog.baseUrl channel product version)
  | .metadata channel product version platform platformVersion architecture =>
    run (Service.Catalog.metadata backends.settings.catalog.baseUrl channel product version platform
      platformVersion architecture)
  | .validate license => run (Service.License.validate backends.settings.license.baseUrl license)
  | .customerEmail license =>
    run (Service.License.customerEmail backends.settings.license.baseUrl license)
  | .customers email => run (Service.Portal.customers backends.settings.portal email)
  | .portalDownload url installationId => run (Service.Portal.download url installationId)
  | .session region => pure (Objects.Federation.session region)
  | .assumeRole session role => do
    match backends.federation.assumeRole session role (← host.now) with
    | .ok (some credentials) => return .ok credentials
    | .ok none => throw .timeOutOfRange
    | .error failure => return .error failure
  | .object _ credentials bucket key => do
    match Objects.Local.locate backends.root (← host.now) credentials bucket key with
    | .error failure => return .error failure
    | .ok path => return Objects.Local.stored bucket key (← host.openAt path)
where
  run {α : Type} (exchange : Http.Exchange α) : ExceptT Crash m (Except Failure α) :=
    ExceptT.lift (exchange.run host.send)

end Backends

end ReleaseGate
