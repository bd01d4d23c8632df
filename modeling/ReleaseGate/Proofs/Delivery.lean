import ReleaseGate.Proofs.Calls
import ReleaseGate.Supply.Platform

/-! How a license leads to the platform bundle: which services are asked on the way, where it can
end, and what the caller gets. -/

namespace ReleaseGate

namespace Portal.Customer

/-- The first channel of the customer is at this place below `root`. -/
def Place (customer : Customer) (root url : String) : Prop :=
  ∃ channel others, customer.channels = channel :: others ∧ channel.appSlug ≠ "" ∧
    channel.channelSlug ≠ "" ∧ url = Text.withoutEndSlashes root ++ "/" ++ channel.appSlug ++ "/" ++
      channel.channelSlug ++ if customer.airgap then "/airgap" else ""

/-- The customer has no channel, or the first one lacks a slug. -/
def Placeless (customer : Customer) : Prop :=
  ∀ channel others, customer.channels = channel :: others →
    channel.appSlug = "" ∨ channel.channelSlug = ""

theorem downloadUrl?_eq_some_iff {customer : Customer} {root url : String} :
    customer.downloadUrl? root = some url ↔ customer.Place root url := by
  unfold downloadUrl? Place
  cases customer.channels with
  | nil => simp
  | cons channel others =>
    simp only [List.cons.injEq]
    split
    · rename_i missing
      constructor
      · intro h
        cases h
      · rintro ⟨_, _, ⟨rfl, rfl⟩, app, slug, _⟩
        exact absurd missing (by simp [app, slug])
    · rename_i named
      rw [not_or] at named
      constructor
      · intro h
        exact ⟨channel, others, ⟨rfl, rfl⟩, named.1, named.2, (Option.some.inj h).symm⟩
      · rintro ⟨_, _, ⟨rfl, rfl⟩, _, _, rfl⟩
        rfl

theorem downloadUrl?_eq_none_iff {customer : Customer} {root : String} :
    customer.downloadUrl? root = none ↔ customer.Placeless := by
  unfold downloadUrl? Placeless
  cases customer.channels with
  | nil => simp
  | cons channel others =>
    simp only [List.cons.injEq]
    split
    · rename_i missing
      simp only [true_iff]
      rintro _ _ ⟨rfl, rfl⟩
      exact missing
    · rename_i named
      simp only [reduceCtorEq, false_iff]
      exact fun lacking => named (lacking channel others ⟨rfl, rfl⟩)

end Portal.Customer

namespace Supply.Platform

open Portal (Customer)

/-- Where a license leads: the questions asked on the way, and the artifact at its end or the first
step that fails, after which nobody is asked. -/
inductive Leads (root license : String) : List Event → Except Step Artifact → Prop
  | licenseLookup (failure : Failure) :
      Leads root license [.asked (.customerEmail license) (.error failure)] (.error .licenseLookup)
  | customerSearch (email : String) (failure : Failure) :
      Leads root license
        [.asked (.customerEmail license) (.ok email), .asked (.customers email) (.error failure)]
        (.error .customerSearch)
  | customerNotFound (email : String) :
      Leads root license
        [.asked (.customerEmail license) (.ok email), .asked (.customers email) (.ok [])]
        (.error .customerNotFound)
  | channelMissing (email : String) {customer : Customer} (others : List Customer) :
      customer.Placeless →
      Leads root license
        [.asked (.customerEmail license) (.ok email),
          .asked (.customers email) (.ok (customer :: others))]
        (.error .channelMissing)
  | artifactFetch (email : String) {customer : Customer} (others : List Customer) {url : String}
      (failure : Failure) :
      customer.Place root url →
      Leads root license
        [.asked (.customerEmail license) (.ok email),
          .asked (.customers email) (.ok (customer :: others)),
          .asked (.portalDownload url customer.installationId) (.error failure)]
        (.error .artifactFetch)
  | artifact (email : String) {customer : Customer} (others : List Customer) {url : String}
      (given : Artifact) :
      customer.Place root url →
      Leads root license
        [.asked (.customerEmail license) (.ok email),
          .asked (.customers email) (.ok (customer :: others)),
          .asked (.portalDownload url customer.installationId) (.ok given)]
        (.ok given)

def disposition : String := "content-disposition"

/-- The artifact that is sent is the one that was given. If that says nothing of its disposition,
the disposition alone is put in. -/
structure Forwarded (given sent : Artifact) : Prop where
  status : sent.status = given.status
  body : sent.body = given.body
  kept : ∀ text, given.header? disposition = some text → text ≠ "" → sent.headers = given.headers
  put : given.header? disposition = none ∨ given.header? disposition = some "" →
    sent.headers = given.headers.filter (·.1 ≠ disposition) ++
      [(disposition, "attachment;filename=chef-360.tar.gz")]

/-- What the caller gets where a license has led. -/
inductive Told : Except Step Artifact → Except Failure Outcome → Prop
  | failed (step : Step) : Told (.error step) (.error (.entitlement step))
  | sent {given sent : Artifact} : Forwarded given sent → Told (.ok given) (.ok (.stream sent))

theorem forwarded_iff {given sent : Artifact} : Forwarded given sent ↔
    sent = given.defaultHeader "content-disposition" "attachment;filename=chef-360.tar.gz" := by
  have lower : Text.lowerAscii "content-disposition" = disposition := by decide +kernel
  unfold Artifact.defaultHeader Artifact.setHeader
  rw [lower]
  change _ ↔ sent = if (given.header? disposition).getD "" = "" then _ else given
  split
  · rename_i lacking
    have silent : given.header? disposition = none ∨ given.header? disposition = some "" := by
      cases said : given.header? disposition <;> simp_all
    constructor
    · rintro ⟨status, body, _, put⟩
      cases sent
      cases status
      cases body
      cases put silent
      rfl
    · rintro rfl
      refine ⟨rfl, rfl, fun text said filled => ?_, fun _ => rfl⟩
      simp [said, filled] at lacking
  · rename_i saying
    constructor
    · rintro ⟨status, body, kept, _⟩
      cases said : given.header? disposition with
      | none => simp [said] at saying
      | some text =>
        have headers := kept text said (by simpa [said] using saying)
        cases sent
        cases status
        cases body
        cases headers
        rfl
    · rintro rfl
      refine ⟨rfl, rfl, fun _ _ _ => rfl, ?_⟩
      rintro (said | said) <;> simp [said] at saying

variable {root license : String} {calls : List Event}

/-- A step asks one question. Its failure is told as that of the step, whatever it was. -/
theorem asksOnly_step (s : Step) (query : Query) :
    (step s (.get query)).AsksOnly fun _ => .entitlement s := by
  intro calls result
  simp only [Action.Calls, step, Action.runs_orElse_iff, Action.runs_get_iff, Action.error_bind,
    Action.runs_note_iff, Action.runs_fail_iff]
  constructor
  · rintro ⟨_, ⟨value, rfl, rfl⟩ | ⟨failure, _, _, rfl, rfl, _, rfl, rfl, rfl⟩, rfl⟩
    · exact ⟨.ok value, rfl, rfl⟩
    · exact ⟨.error failure, rfl, rfl⟩
  · rintro ⟨failure | value, rfl, rfl⟩
    · exact ⟨_, .inr ⟨failure, _, _, rfl, rfl, _, rfl, rfl, rfl⟩, rfl⟩
    · exact ⟨_, .inl ⟨value, rfl, rfl⟩, rfl⟩

/-- Nothing comes after a step that fails. -/
theorem calls_step_bind_iff {α : Type} {s : Step} {query : Query} {f : query.Answer → Action α}
    {result : Except Failure α} :
    (step s (.get query) >>= f).Calls calls result ↔
      (∃ failure, calls = [.asked query (.error failure)] ∧ result = .error (.entitlement s)) ∨
      ∃ value rest, calls = .asked query (.ok value) :: rest ∧ (f value).Calls rest result :=
  (asksOnly_step s query).calls_bind_iff

theorem calls_refuse_iff {α : Type} {s : Step} {message : String} {result : Except Failure α} :
    (refuse s message).Calls calls result ↔ calls = [] ∧ result = .error (.entitlement s) := by
  rw [refuse, Action.error_bind, Action.calls_note_iff, Action.calls_fail_iff]

/-- What is left to do for the customers that were found. -/
def hand (root : String) : List Customer → Action Artifact
  | [] => refuse .customerNotFound "no customer matches the license email"
  | customer :: _ =>
    match customer.downloadUrl? root with
    | none => refuse .channelMissing ("customer " ++ customer.id ++ " has no channel slugs")
    | some url => do
      .info code ("download url formulated for customer " ++ customer.id)
      let artifact ← step .artifactFetch (.get (.portalDownload url customer.installationId))
      return artifact.defaultHeader "content-disposition" "attachment;filename=chef-360.tar.gz"

theorem calls_hand_iff {customer : Customer} {others : List Customer}
    {result : Except Failure Artifact} :
    (hand root (customer :: others)).Calls calls result ↔
      (customer.Placeless ∧ calls = [] ∧ result = .error (.entitlement .channelMissing)) ∨
      ∃ url, customer.Place root url ∧
        ((∃ failure,
          calls = [.asked (.portalDownload url customer.installationId) (.error failure)] ∧
            result = .error (.entitlement .artifactFetch)) ∨
        ∃ given sent, calls = [.asked (.portalDownload url customer.installationId) (.ok given)] ∧
          Forwarded given sent ∧ result = .ok sent) := by
  dsimp only [hand]
  cases found : customer.downloadUrl? root with
  | none =>
    have placeless := Portal.Customer.downloadUrl?_eq_none_iff.mp found
    rw [calls_refuse_iff]
    constructor
    · exact fun refused => .inl ⟨placeless, refused⟩
    · rintro (⟨_, refused⟩ | ⟨url, place, _⟩)
      · exact refused
      · rw [Portal.Customer.downloadUrl?_eq_some_iff.mpr place] at found
        cases found
  | some url =>
    have place := Portal.Customer.downloadUrl?_eq_some_iff.mp found
    dsimp only
    rw [Action.info_bind, Action.calls_note_iff, calls_step_bind_iff]
    constructor
    · rintro (⟨failure, rfl, rfl⟩ | ⟨given, _, rfl, done⟩)
      · exact .inr ⟨url, place, .inl ⟨failure, rfl, rfl⟩⟩
      · obtain ⟨rfl, rfl⟩ := Action.calls_pure_iff.mp done
        exact .inr ⟨url, place, .inr ⟨given, _, rfl, forwarded_iff.mpr rfl, rfl⟩⟩
    · rintro (⟨placeless, _⟩ | ⟨url', place', rest⟩)
      · rw [Portal.Customer.downloadUrl?_eq_none_iff.mpr placeless] at found
        cases found
      · rw [Portal.Customer.downloadUrl?_eq_some_iff.mpr place'] at found
        cases found
        obtain ⟨failure, rfl, rfl⟩ | ⟨given, sent, rfl, forwarded, rfl⟩ := rest
        · exact .inl ⟨failure, rfl, rfl⟩
        · rw [forwarded_iff.mp forwarded]
          exact .inr ⟨given, [], rfl, Action.calls_pure_iff.mpr ⟨rfl, rfl⟩⟩

theorem fetch_eq : fetch root license = (do
    let email ← step .licenseLookup (.get (.customerEmail license))
    .debug code "customer email resolved"
    hand root (← step .customerSearch (.get (.customers email)))) := by
  unfold fetch customer
  simp only [bind_assoc]
  congr 1
  funext email
  congr 1
  funext _
  congr 1
  funext customers
  cases customers <;> rfl

/-- The email, the customers and the artifact are asked for one after the other. -/
theorem calls_fetch_iff {result : Except Failure Artifact} :
    (fetch root license).Calls calls result ↔
      (∃ failure, calls = [.asked (.customerEmail license) (.error failure)] ∧
        result = .error (.entitlement .licenseLookup)) ∨
      ∃ email rest, calls = .asked (.customerEmail license) (.ok email) :: rest ∧
        ((∃ failure, rest = [.asked (.customers email) (.error failure)] ∧
          result = .error (.entitlement .customerSearch)) ∨
        ∃ customers rest', rest = .asked (.customers email) (.ok customers) :: rest' ∧
          (hand root customers).Calls rest' result) := by
  rw [fetch_eq, calls_step_bind_iff]
  apply or_congr_right
  apply exists_congr
  intro email
  apply exists_congr
  intro rest
  apply and_congr_right
  intro _
  exact Action.calls_note_iff.trans calls_step_bind_iff

/-- A download under a license goes where the license leads. -/
theorem calls_download_iff {request : Request} (licensed : request.licenseId ≠ "")
    {result : Except Failure Outcome} :
    (download root request).Calls calls result ↔
      ∃ ending, Leads root request.licenseId calls ending ∧ Told ending result := by
  unfold download
  rw [if_neg licensed, Action.info_bind, Action.calls_note_iff, Action.calls_bind_pure_iff]
  constructor
  · rintro ⟨_, run, rfl⟩
    obtain ⟨failure, rfl, rfl⟩ |
      ⟨email, _, rfl, ⟨failure, rfl, rfl⟩ | ⟨customers, rest, rfl, handed⟩⟩ :=
      calls_fetch_iff.mp run
    · exact ⟨_, .licenseLookup failure, .failed _⟩
    · exact ⟨_, .customerSearch email failure, .failed _⟩
    cases customers with
    | nil =>
      obtain ⟨rfl, rfl⟩ := calls_refuse_iff.mp handed
      exact ⟨_, .customerNotFound email, .failed _⟩
    | cons customer others =>
      obtain ⟨placeless, rfl, rfl⟩ |
        ⟨url, place, ⟨failure, rfl, rfl⟩ | ⟨given, sent, rfl, forwarded, rfl⟩⟩ :=
        calls_hand_iff.mp handed
      · exact ⟨_, .channelMissing email others placeless, .failed _⟩
      · exact ⟨_, .artifactFetch email others failure place, .failed _⟩
      · exact ⟨_, .artifact email others given place, .sent forwarded⟩
  · have searched : ∀ {email : String} {customers : List Customer} {rest : List Event}
        {result : Except Failure Artifact}, (hand root customers).Calls rest result →
        (fetch root request.licenseId).Calls
          (.asked (.customerEmail request.licenseId) (.ok email) ::
            .asked (.customers email) (.ok customers) :: rest) result :=
      fun run => calls_fetch_iff.mpr (.inr ⟨_, _, rfl, .inr ⟨_, _, rfl, run⟩⟩)
    rintro ⟨_, leads, told⟩
    cases leads with
    | licenseLookup failure =>
      cases told
      exact ⟨_, calls_fetch_iff.mpr (.inl ⟨failure, rfl, rfl⟩), rfl⟩
    | customerSearch email failure =>
      cases told
      exact ⟨_, calls_fetch_iff.mpr (.inr ⟨email, _, rfl, .inl ⟨failure, rfl, rfl⟩⟩), rfl⟩
    | customerNotFound email =>
      cases told
      exact ⟨_, searched (calls_refuse_iff.mpr ⟨rfl, rfl⟩), rfl⟩
    | channelMissing email others placeless =>
      cases told
      exact ⟨_, searched (calls_hand_iff.mpr (.inl ⟨placeless, rfl, rfl⟩)), rfl⟩
    | artifactFetch email others failure place =>
      cases told
      refine ⟨.error (.entitlement .artifactFetch), searched (calls_hand_iff.mpr ?_), rfl⟩
      exact .inr ⟨_, place, .inl ⟨failure, rfl, rfl⟩⟩
    | artifact email others given place =>
      cases told with
      | @sent _ sent forwarded =>
        refine ⟨.ok sent, searched (calls_hand_iff.mpr ?_), rfl⟩
        exact .inr ⟨_, place, .inr ⟨given, _, rfl, forwarded, rfl⟩⟩

/-- The questions and answers settle where a license leads. -/
theorem Leads.unique {ending other : Except Step Artifact} (h : Leads root license calls ending)
    (h' : Leads root license calls other) : other = ending := by
  cases h <;> cases h' <;> rfl

theorem Leads.queries_prefix {ending : Except Step Artifact} (h : Leads root license calls ending) :
    ∃ email url installation, calls.filterMap Event.query? <+:
      [.customerEmail license, .customers email, .portalDownload url installation] := by
  cases h with
  | licenseLookup => exact ⟨"", "", "", List.prefix_append [_] _⟩
  | customerSearch email | customerNotFound email | channelMissing email =>
    exact ⟨email, "", "", List.prefix_append [_, _] _⟩
  | artifactFetch email | artifact email => exact ⟨email, _, _, List.prefix_refl _⟩

/-- A download under a license goes where the license leads, on one way: from its email to the
customers to the place of the first. The caller learns which step failed, and no more. -/
theorem licensed_download {request : Request} (licensed : request.licenseId ≠ "") :
    (∀ calls result, ((supply .commercial root).download request).Calls calls result ↔
      ∃ ending, Leads root request.licenseId calls ending ∧ Told ending result) ∧
    ∀ calls ending, Leads root request.licenseId calls ending →
      (∀ other, Leads root request.licenseId calls other → other = ending) ∧
      (∃ email url installation, calls.filterMap Event.query? <+:
        [.customerEmail request.licenseId, .customers email, .portalDownload url installation]) ∧
      ∀ step failure, ending = .error step → Told ending (.error failure) →
        failure.answer = ⟨500, step.message⟩ := by
  constructor
  · intro calls result
    exact calls_download_iff licensed
  · intro calls ending leads
    refine ⟨fun _ => leads.unique, leads.queries_prefix, ?_⟩
    rintro step failure rfl told
    cases told
    rfl

/-- A customer behind an air gap. -/
def airgapped : Customer where
  airgap := true
  installationId := "inst-9"
  channels := [{ appSlug := "chef-360", channelSlug := "stable" }]

/-- A part of a bundle of which nothing is said but an empty disposition and a tag. -/
def part : Artifact where
  status := 206
  headers := [("content-disposition", ""), ("etag", "e1")]
  body := ⟨.empty, none⟩

/-- Such a customer gets what is at the channel's place for them, with the disposition put in. -/
theorem part_for_airgapped :
    "tmns-1" ≠ "" ∧ ((supply .commercial "https://portal/").download
        { channel := .stable, product := "chef-360", licenseId := "tmns-1" }).Calls
      [.asked (.customerEmail "tmns-1") (.ok "ops@acme"),
        .asked (.customers "ops@acme") (.ok [airgapped]),
        .asked (.portalDownload "https://portal/chef-360/stable/airgap" "inst-9") (.ok part)]
      (.ok (.stream { part with
        headers := [("etag", "e1"),
          ("content-disposition", "attachment;filename=chef-360.tar.gz")] })) := by
  have licensed : "tmns-1" ≠ "" := by decide
  have place : airgapped.Place "https://portal/" "https://portal/chef-360/stable/airgap" :=
    ⟨_, [], rfl, by decide, by decide, by decide +kernel⟩
  have silent : part.header? disposition = some "" := by decide +kernel
  refine ⟨licensed, ((licensed_download licensed).1 _ _).mpr ⟨.ok part, ?_, .sent ?_⟩⟩
  · exact .artifact "ops@acme" [] part place
  · refine ⟨rfl, rfl, fun text shown filled => ?_, fun _ => by decide +kernel⟩
    rw [silent] at shown
    exact absurd (Option.some.inj shown).symm filled

end Supply.Platform

end ReleaseGate
