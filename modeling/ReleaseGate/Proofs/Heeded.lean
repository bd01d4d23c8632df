import Mathlib.Tactic.ByContra
import ReleaseGate.Backends
import ReleaseGate.Proofs.Bytes

/-! What is made of the status of a reply. -/

namespace ReleaseGate

open Http (Exchange Reply)

namespace Http

variable {α : Type} {reply : Reply}

/-- The reply as if it were a success. -/
def Reply.welcomed (reply : Reply) : Reply where
  status := 200
  headers := reply.headers
  body := reply.content
  cutShort := reply.interrupted

/-- The service finds fault with the call or with itself. -/
def Reply.Faults (reply : Reply) : Prop := 400 ≤ reply.status ∧ reply.status < 600

theorem Reply.interrupted_welcomed (reply : Reply) :
    reply.welcomed.interrupted = reply.interrupted := Bool.and_true _

theorem Reply.json?_welcomed (reply : Reply) (shape : Json.Shape) :
    reply.welcomed.json? shape = reply.json? shape := by
  unfold Reply.json?
  rw [reply.interrupted_welcomed]
  rfl

/-- A body that is a text is read as this text. -/
theorem Reply.json?_of_text {text : String} (whole : reply.interrupted = false)
    (content : reply.content = text.toUTF8) (shape : Json.Shape) :
    reply.json? shape = (Json.ofText shape text).toOption := by
  have spelled : reply.decoded.flatMap spelling = text.toList := by
    unfold Reply.decoded
    rw [content, Text.toList_toUTF8, Text.Utf8.read_bytes, List.flatMap_map]
    exact List.flatMap_singleton' text.toList
  unfold Reply.json?
  rw [whole, spelled, String.ofList_toList]
  rfl

theorem Reply.not_faults_of_succeeded (succeeded : reply.succeeded = true) : ¬ reply.Faults := by
  simp only [Reply.succeeded, Bool.and_eq_true, decide_eq_true_eq] at succeeded
  unfold Reply.Faults
  omega

namespace Exchange

/-- Nothing is read from a reply that is not a success. -/
def RefusesUnsuccessful (exchange : Exchange α) : Prop :=
  ∀ reply, reply.succeeded = false → exchange.outcome (.ok reply) = .error reply.refusal

/-- Nothing is read from a reply that finds fault, and any other is read as if it were a
success. -/
structure RefusesFaults (exchange : Exchange α) : Prop where
  missing : ∀ reply, reply.status = 404 → exchange.outcome (.ok reply) =
    .error (.missing "Requested data is not found. Please check the input parameters")
  refused : ∀ reply, reply.Faults → reply.status ≠ 404 →
    exchange.outcome (.ok reply) = .error reply.refusal
  read : ∀ reply, ¬ reply.Faults →
    exchange.outcome (.ok reply) = exchange.outcome (.ok reply.welcomed)
  unread : ∀ reply failure, ¬ reply.Faults → exchange.outcome (.ok reply) = .error failure →
    ∃ detail, failure = .serialization detail

theorem outcome_document_of_refused {call : Call} {lost : Fault → Failure}
    {refused : Reply → Option Failure} {unread : String → Failure} {shape : Json.Shape}
    {read : Json → Except Failure α} {failure : Failure} (h : refused reply = some failure) :
    (document call lost refused unread shape read).outcome (.ok reply) = .error failure := by
  simp only [document, h]

theorem outcome_document_of_taken {call : Call} {lost : Fault → Failure}
    {refused : Reply → Option Failure} {unread : String → Failure} {shape : Json.Shape}
    {read : Json → Except Failure α} (h : refused reply = none) :
    (document call lost refused unread shape read).outcome (.ok reply) =
      ((reply.json? shape).map read).getD (.error (unread unreadable)) := by
  simp only [document, h]
  cases reply.json? shape <;> rfl

end Exchange

end Http

namespace Service

variable {α : Type} {reply : Reply}

theorem Catalog.refused_of_missing (missing : reply.status = 404) :
    refused reply =
      some (.missing "Requested data is not found. Please check the input parameters") :=
  if_pos missing

theorem Catalog.refused_of_faults (faults : reply.Faults) (there : reply.status ≠ 404) :
    refused reply = some reply.refusal := by
  unfold refused
  rw [if_neg there]
  exact if_pos faults

theorem Catalog.refused_of_not_faults (fine : ¬ reply.Faults) : refused reply = none := by
  have there : reply.status ≠ 404 := fun missing => fine (by simp [Reply.Faults, missing])
  unfold refused
  rw [if_neg there]
  exact if_neg fine

theorem Catalog.fetch_refusesFaults (base path : String) (shape : Json.Shape) (read : Json → α) :
    (fetch base path shape read).RefusesFaults where
  missing reply missing := by
    unfold fetch
    exact Exchange.outcome_document_of_refused (refused_of_missing missing)
  refused reply faults there := by
    unfold fetch
    exact Exchange.outcome_document_of_refused (refused_of_faults faults there)
  read reply fine := by
    have welcome : ¬ reply.welcomed.Faults := Reply.not_faults_of_succeeded rfl
    unfold fetch
    rw [Exchange.outcome_document_of_taken (refused_of_not_faults fine),
      Exchange.outcome_document_of_taken (refused_of_not_faults welcome), reply.json?_welcomed]
  unread reply failure fine failed := by
    unfold fetch at failed
    rw [Exchange.outcome_document_of_taken (refused_of_not_faults fine)] at failed
    cases decoded : reply.json? shape with
    | some value =>
      rw [decoded] at failed
      cases failed
    | none =>
      rw [decoded] at failed
      cases failed
      exact ⟨_, rfl⟩

theorem License.fetch_refusesUnsuccessful (base path license content : String) (shape : Json.Shape)
    (read : Json → Except Failure α) :
    (fetch base path license content shape read).RefusesUnsuccessful := by
  intro reply unsuccessful
  exact Exchange.outcome_document_of_refused (by simp [refused, unsuccessful])

theorem Portal.refused_of_unsuccessful (unsuccessful : reply.succeeded = false) :
    refused reply = some reply.refusal := by
  simp [refused, unsuccessful]

theorem Portal.customers_refusesUnsuccessful (settings : PortalSettings) (email : String) :
    (customers settings email).RefusesUnsuccessful := fun _ unsuccessful =>
  Exchange.outcome_document_of_refused (refused_of_unsuccessful unsuccessful)

theorem Portal.download_refusesUnsuccessful (url installationId : String) :
    (download url installationId).RefusesUnsuccessful := by
  intro reply unsuccessful
  simp only [download, refused_of_unsuccessful unsuccessful]

end Service

namespace Query

/-- The exchange in which the question is put to a service, if it is put to one. -/
def exchange? (settings : Settings) : (query : Query) → Option (Exchange query.Answer)
  | products eol => some (Service.Catalog.products settings.catalog.baseUrl eol)
  | platforms => some (Service.Catalog.platforms settings.catalog.baseUrl)
  | architectures => some (Service.Catalog.architectures settings.catalog.baseUrl)
  | latestVersion channel product =>
    some (Service.Catalog.latestVersion settings.catalog.baseUrl channel product)
  | versions channel product =>
    some (Service.Catalog.versions settings.catalog.baseUrl channel product)
  | packages channel product version =>
    some (Service.Catalog.packages settings.catalog.baseUrl channel product version)
  | metadata channel product version platform platformVersion architecture =>
    some (Service.Catalog.metadata settings.catalog.baseUrl channel product version platform
      platformVersion architecture)
  | validate license => some (Service.License.validate settings.license.baseUrl license)
  | customerEmail license => some (Service.License.customerEmail settings.license.baseUrl license)
  | customers email => some (Service.Portal.customers settings.portal email)
  | portalDownload url installationId => some (Service.Portal.download url installationId)
  | item .. | scan .. | session _ | assumeRole .. | object .. => none

/-- The question is put to the catalog. -/
def forCatalog : Query → Bool
  | products _ | platforms | architectures | latestVersion .. | versions .. | packages ..
  | metadata .. => true
  | _ => false

/-- The failure says the status of the reply, or that the catalog has no such data. -/
inductive Tells (query : Query) (reply : Reply) : Failure → Prop
  | status (message : String) : Tells query reply (.responded reply.status message)
  | missing (message : String) (catalog : query.forCatalog = true) (there : reply.status = 404) :
    Tells query reply (.notFound 400 message)

variable {backends : Backends} {settings : Settings} {query : Query}
  {exchange : Exchange query.Answer}

/-- If the reply is not a success, the exchange fails and tells why. -/
def Heeds (query : Query) (exchange : Exchange query.Answer) (reply : Reply) : Prop :=
  reply.succeeded = false →
    ∃ failure, exchange.outcome (.ok reply) = .error failure ∧ query.Tells reply failure

theorem refusesFaults (put : query.exchange? settings = some exchange)
    (catalog : query.forCatalog = true) : exchange.RefusesFaults := by
  cases query <;> cases catalog
  all_goals
    cases put
    exact Service.Catalog.fetch_refusesFaults ..

theorem refusesUnsuccessful (put : query.exchange? settings = some exchange)
    (elsewhere : query.forCatalog = false) : exchange.RefusesUnsuccessful := by
  cases query <;> cases elsewhere <;> cases put
  case validate | customerEmail => exact Service.License.fetch_refusesUnsuccessful _ _ _ _ _ _
  case customers => exact Service.Portal.customers_refusesUnsuccessful _ _
  case portalDownload => exact Service.Portal.download_refusesUnsuccessful _ _

theorem answer_of_exchange? (put : query.exchange? backends.settings = some exchange)
    {m : Type → Type} [Monad m] (host : Host m) :
    backends.answer host query = ExceptT.lift (exchange.run host.send) := by
  cases query <;> cases put <;> rfl

theorem heeds_iff_of_forCatalog (put : query.exchange? settings = some exchange)
    (catalog : query.forCatalog = true) {reply : Reply} (unsuccessful : reply.succeeded = false) :
    query.Heeds exchange reply ↔ reply.Faults := by
  have refuses := refusesFaults put catalog
  constructor
  · intro heeds
    by_contra fine
    obtain ⟨failure, failed, tells⟩ := heeds unsuccessful
    obtain ⟨detail, rfl⟩ := refuses.unread reply failure fine failed
    cases tells
  · intro faults _
    by_cases there : reply.status = 404
    · exact ⟨_, refuses.missing reply there, .missing _ catalog there⟩
    · exact ⟨_, refuses.refused reply faults there, .status _⟩

/-- A reply that is not a success is heeded, but by the catalog only if it finds fault: any other
status is as good to it as that of a success. -/
theorem heeds_iff (put : query.exchange? backends.settings = some exchange) :
    (∀ {m : Type → Type} [Monad m] (host : Host m),
      backends.answer host query = ExceptT.lift (exchange.run host.send)) ∧
    ∀ reply : Reply,
      (query.Heeds exchange reply ↔
        reply.succeeded = true ∨ query.forCatalog = false ∨ reply.Faults) ∧
      (query.forCatalog = true → ¬ reply.Faults →
        exchange.outcome (.ok reply) = exchange.outcome (.ok reply.welcomed)) := by
  refine ⟨answer_of_exchange? put, fun reply => ⟨?_, fun catalog =>
    (refusesFaults put catalog).read reply⟩⟩
  cases succeeded : reply.succeeded with
  | true => simp [Heeds, succeeded]
  | false =>
    cases catalog : query.forCatalog with
    | false =>
      refine iff_of_true (fun _ => ?_) (.inr (.inl rfl))
      exact ⟨_, refusesUnsuccessful put catalog reply succeeded, .status _⟩
    | true =>
      simpa using heeds_iff_of_forCatalog put catalog succeeded

/-- A reply with a list of one product. -/
def listing (status : Nat) : Reply where
  status := status
  headers := []
  body := "[\"chef\"]".toUTF8

def unfederated : Backends where
  settings := {}
  store := {}
  federation := ⟨900⟩
  root := "/srv"

theorem heeds_unavailable :
    let exchange := Service.Catalog.products unfederated.settings.catalog.baseUrl false
    (products false).Heeds exchange (listing 503) ∧
      exchange.outcome (.ok (listing 301)) = exchange.outcome (.ok (listing 301).welcomed) := by
  intro exchange
  have put : (products false).exchange? unfederated.settings = some exchange := rfl
  have unavailable : (listing 503).Faults := ⟨by decide, by decide⟩
  have moved : ¬ (listing 301).Faults := fun faults => absurd faults.1 (by decide)
  have replies := (heeds_iff put).2
  exact ⟨(replies (listing 503)).1.mpr (.inr (.inr unavailable)),
    (replies (listing 301)).2 rfl moved⟩

/-- Products are read from a reply that only offers a choice of others. -/
theorem products_of_choices :
    let exchange := Service.Catalog.products "http://catalog.example" false
    (listing 300).succeeded = false ∧ exchange.outcome (.ok (listing 300)) = .ok ["chef"] ∧
      ¬ (products false).Heeds exchange (listing 300) := by
  intro exchange
  have decoded : (listing 300).json? (.list .text) = some (.list [.text "chef"]) := by
    have content : (listing 300).content = "[\"chef\"]".toUTF8 := rfl
    rw [Reply.json?_of_text rfl content]
    decide +kernel
  have read : exchange.outcome (.ok (listing 300)) = .ok ["chef"] := by
    unfold exchange Service.Catalog.products Service.Catalog.fetch
    rw [Exchange.outcome_document_of_taken rfl, decoded]
    rfl
  refine ⟨rfl, read, fun heeds => ?_⟩
  obtain ⟨failure, failed, -⟩ := heeds rfl
  rw [read] at failed
  cases failed

end Query

end ReleaseGate
