import ReleaseGate.Proofs.FailStop
import ReleaseGate.Proofs.Likeness

/-! One task carried out with two companies of services, whose answers may differ a little. What
becomes of the task differs no more than the answers did. -/

namespace ReleaseGate

/-- How far the answers of two companies of services may differ, and the logs with them. -/
structure Leeway where
  failures : Failure → Failure → Prop
  credentials : Objects.Credentials → Objects.Credentials → Prop
  installations : String → String → Prop
  bodies : Body → Body → Prop
  notes : Log.Entry → Log.Entry → Prop

/-- What is asked and answered without a secret and without an artifact. -/
def Query.Common : Query → Prop
  | .customers _ | .portalDownload .. | .assumeRole .. | .object .. => False
  | _ => True

theorem Query.Routine.common (query : Query) (h : query.Routine) : query.Common := by
  cases query <;> first | exact trivial | cases h

/-- What a table is asked is common, whatever the table. -/
theorem Store.open_common (table product : String) : Store.Open Query.Common table product :=
  ⟨fun _ => trivial, trivial⟩

namespace Leeway

variable {α β : Type} (leeway : Leeway)

/-- Both answers are values alike, or both are failures alike. -/
def Answers (values : α → β → Prop) : Except Failure α → Except Failure β → Prop
  | .ok one, .ok other => values one other
  | .error one, .error other => leeway.failures one other
  | _, _ => False

/-- The same customer, with installation ids alike. -/
structure Customers (one other : Portal.Customer) : Prop where
  same : other = { one with installationId := other.installationId }
  installation : leeway.installations one.installationId other.installationId

/-- The same artifact, with bodies alike. -/
structure Artifacts (one other : Artifact) : Prop where
  same : other = { one with body := other.body }
  body : leeway.bodies one.body other.body

/-- The same object, with bodies alike. -/
structure Stored (one other : Objects.Stored) : Prop where
  same : other = { one with body := other.body }
  body : leeway.bodies one.body other.body

/-- Which questions may stand for each other, and which answers to them. Questions differ in the
credentials and the installation id that they are asked under, and in nothing else. -/
inductive Asks : (one other : Query) →
    (Except Failure one.Answer → Except Failure other.Answer → Prop) → Prop
  | common {query : Query} : query.Common → Asks query query (leeway.Answers (· = ·))
  | customers (email : String) :
      Asks (.customers email) (.customers email) (leeway.Answers (List.Forall₂ leeway.Customers))
  | portalDownload (url : String) {one other : String} : leeway.installations one other →
      Asks (.portalDownload url one) (.portalDownload url other) (leeway.Answers leeway.Artifacts)
  | assumeRole (session : Objects.Session) (role : String) :
      Asks (.assumeRole session role) (.assumeRole session role)
        (leeway.Answers leeway.credentials)
  | object (session : Objects.Session) {one other : Objects.Credentials} (bucket key : String) :
      leeway.credentials one other →
      Asks (.object session one bucket key) (.object session other bucket key)
        (leeway.Answers leeway.Stored)

def likeness : Likeness := ⟨leeway.Asks, leeway.notes, leeway.failures⟩

/-- What is the same is alike, and what is logged about failures that are alike is alike. -/
structure Lawful : Prop where
  failures : ∀ failure, leeway.failures failure failure
  notes : ∀ entry, leeway.notes entry entry
  noted : ∀ (note : Failure → Log.Entry) one other, leeway.failures one other →
    leeway.notes (note one) (note other)

/-- The same outcome, but for the body of an artifact. -/
inductive Outcomes : Outcome → Outcome → Prop
  | redirect (url : String) : Outcomes (.redirect url) (.redirect url)
  | stream {one other : Artifact} :
      leeway.Artifacts one other → Outcomes (.stream one) (.stream other)
  | metadata (record : Package.Record) : Outcomes (.metadata record) (.metadata record)

/-- The same value of a task, but for the body of an artifact. -/
def Values : (task : Gateway.Task) → task.Answer → task.Answer → Prop
  | .request .download .. => leeway.Outcomes
  | _ => (· = ·)

variable {leeway} {values : α → β → Prop}

theorem results_of_answers {one : Except Failure α} {other : Except Failure β}
    (h : leeway.Answers values one other) : leeway.likeness.Results values one other := by
  cases one with
  | ok one =>
    cases other with
    | ok other => exact .ok h
    | error failure => cases h
  | error failure =>
    cases other with
    | ok other => cases h
    | error other => exact .error h

/-- The answer to one question is like the answer to the other. -/
theorem get_alike {one other : Query} {values : one.Answer → other.Answer → Prop}
    (asks : leeway.Asks one other (leeway.Answers values)) :
    leeway.likeness.Actions values (.get one) (.get other) :=
  .ask asks fun _ _ alike => .done (results_of_answers alike)

variable (lawful : leeway.Lawful)

include lawful

theorem answers_self {values : α → α → Prop} (h : ∀ value, values value value)
    (answer : Except Failure α) : leeway.Answers values answer answer := by
  cases answer with
  | ok value => exact h value
  | error failure => exact lawful.failures failure

theorem told_alike (query : Query) {one other : Failure} (h : leeway.failures one other) :
    leeway.failures (query.told one) (query.told other) := by
  unfold Query.told
  split
  · exact lawful.failures _
  · exact h

theorem ending_alike (notes : List (Failure → Log.Entry)) (query : Query) {one other : Failure}
    (h : leeway.failures one other) :
    leeway.likeness.Actions values (Action.ending (notes.map (· one)) (query.told one))
      (Action.ending (notes.map (· other)) (query.told other)) := by
  induction notes with
  | nil => exact .done (.error (told_alike lawful query h))
  | cons note rest ih => exact .note (lawful.noted note one other h) ih

/-- Work that ends with a question that fails is like itself. -/
theorem same_alike {action : Action α} (stops : action.FailStop)
    (asks : action.Asks Query.Common) : leeway.likeness.Actions (· = ·) action action := by
  induction stops with
  | done result =>
    cases result with
    | ok value => exact .done (.ok rfl)
    | error failure => exact .done (.error (lawful.failures failure))
  | note _ ih =>
    cases asks with
    | note asks => exact .note (lawful.notes _) (ih asks)
  | ask notes fails _ ih =>
    cases asks with
    | ask common later =>
      refine .ask (.common common) ?_
      rintro (failure | value) (failure' | value') alike
      · rw [fails, fails]
        exact ending_alike lawful notes _ alike
      · cases alike
      · cases alike
      · obtain rfl := alike
        exact ih value (later _)

theorem noting_alike {values : α → α → Prop} {one other : Action α} {code : String}
    {message : Failure → String} (h : leeway.likeness.Actions values one other) :
    leeway.likeness.Actions values (one.noting code message) (other.noting code message) := by
  apply h.orElse
  intro failure failure' alike
  exact .note (lawful.noted (⟨.error, code, message ·⟩) _ _ alike) (.done (.error alike))

/-- A step of the licensed download is told by its name, whatever its failure was. -/
theorem step_alike {values : α → α → Prop} {one other : Action α} (s : Step)
    (h : leeway.likeness.Actions values one other) :
    leeway.likeness.Actions values (Supply.Platform.step s one) (Supply.Platform.step s other) := by
  apply h.orElse
  intro failure failure' alike
  refine .note (lawful.noted (⟨.error, _, s.name ++ " failed: " ++ ·.message⟩) _ _ alike) ?_
  exact .done (.error (lawful.failures _))

theorem refuse_alike (s : Step) (message : String) :
    leeway.likeness.Actions values (Supply.Platform.refuse s message)
      (Supply.Platform.refuse s message) :=
  .note (lawful.notes _) (.done (.error (lawful.failures _)))

omit lawful in
theorem defaultHeader_alike {one other : Artifact} (name value : String)
    (h : leeway.Artifacts one other) :
    leeway.Artifacts (one.defaultHeader name value) (other.defaultHeader name value) := by
  have said : other.header? name = one.header? name := congrArg (·.header? name) h.same
  unfold Artifact.defaultHeader
  rw [said]
  split
  · exact ⟨congrArg (·.setHeader name value) h.same, h.body⟩
  · exact h

omit lawful in
/-- What is sent along with an object does not depend on its body. -/
theorem bucket_artifact_alike {one other : Objects.Stored} (filename : String)
    (h : leeway.Stored one other) :
    leeway.Artifacts (Supply.Bucket.artifact one filename)
      (Supply.Bucket.artifact other filename) := by
  obtain ⟨same, body⟩ := h
  rw [same]
  unfold Supply.Bucket.artifact
  cases one.contentType <;> cases one.contentLength <;> exact ⟨rfl, body⟩

theorem hand_alike (root : String) {customers others : List Portal.Customer}
    (h : List.Forall₂ leeway.Customers customers others) :
    leeway.likeness.Actions leeway.Artifacts (Supply.Platform.hand root customers)
      (Supply.Platform.hand root others) := by
  cases h with
  | nil => exact refuse_alike lawful _ _
  | @cons one other _ _ alike _ =>
    have place : other.downloadUrl? root = one.downloadUrl? root :=
      congrArg (·.downloadUrl? root) alike.same
    have id : other.id = one.id := congrArg (·.id) alike.same
    dsimp only [Supply.Platform.hand]
    rw [place, id]
    cases one.downloadUrl? root with
    | none => exact refuse_alike lawful _ _
    | some url =>
      have asked := get_alike (.portalDownload url alike.installation)
      apply Likeness.Actions.note (lawful.notes _)
      apply (step_alike lawful .artifactFetch asked).bind
      intro given given' alike
      exact .done (.ok (defaultHeader_alike _ _ alike))

theorem platform_fetch_alike (root license : String) :
    leeway.likeness.Actions leeway.Artifacts (Supply.Platform.fetch root license)
      (Supply.Platform.fetch root license) := by
  rw [Supply.Platform.fetch_eq]
  have looked := get_alike (.common trivial : leeway.Asks (.customerEmail license) ..)
  apply (step_alike lawful .licenseLookup looked).bind
  rintro email _ rfl
  have searched := get_alike (.customers email : leeway.Asks ..)
  apply Likeness.Actions.note (lawful.notes _)
  exact (step_alike lawful .customerSearch searched).bind fun _ _ => hand_alike lawful root

theorem platform_download_alike (root : String) (request : Request) :
    leeway.likeness.Actions leeway.Outcomes (Supply.Platform.download root request)
      (Supply.Platform.download root request) := by
  unfold Supply.Platform.download
  split
  · exact .done (.error (lawful.failures _))
  · apply Likeness.Actions.note (lawful.notes _)
    apply (platform_fetch_alike lawful root request.licenseId).bind
    intro artifact artifact' alike
    exact .done (.ok (.stream alike))

theorem bucket_fetch_alike (settings : ObjectSettings) (request : Request) (filename : String) :
    leeway.likeness.Actions leeway.Artifacts (Supply.Bucket.fetch settings request filename)
      (Supply.Bucket.fetch settings request filename) := by
  unfold Supply.Bucket.fetch
  apply Likeness.Actions.note (lawful.notes _)
  have opened := get_alike (.common trivial : leeway.Asks (.session settings.region) ..)
  apply (noting_alike lawful opened).bind
  rintro session _ rfl
  have assumed := get_alike (.assumeRole session settings.role : leeway.Asks ..)
  apply (noting_alike lawful assumed).bind
  intro credentials credentials' alike
  have fetched := get_alike (.object session settings.bucket
    (Supply.Bucket.key settings request filename) alike)
  apply (noting_alike lawful fetched).bind
  intro object object' alike
  exact .done (.ok (bucket_artifact_alike filename alike))

theorem bucket_download_alike (table : Store.Table Store.ManagedRelease)
    (settings : ObjectSettings) (request : Request) :
    leeway.likeness.Actions leeway.Outcomes (Supply.Bucket.download table settings request)
      (Supply.Bucket.download table settings request) := by
  have checked : leeway.likeness.Actions (· = ·) (.ofExcept settings.check)
      (.ofExcept settings.check) := same_alike lawful (.done _) (.done _)
  apply (noting_alike lawful checked).bind
  intro _ _ _
  have named := same_alike lawful (Supply.Bucket.failStop_fileName table request)
    (Supply.Bucket.asks_fileName (Store.open_common ..))
  apply named.bind
  rintro filename _ rfl
  apply Likeness.Actions.note (lawful.notes _)
  apply (bucket_fetch_alike lawful settings request filename).bind
  intro artifact artifact' alike
  exact .done (.ok (.stream alike))

/-- A file that the caller is sent to is named without a secret. -/
theorem records_download_alike (table : Store.Table Store.FileRelease) (root : String)
    (request : Request) :
    leeway.likeness.Actions leeway.Outcomes (Supply.Records.download table root request)
      (Supply.Records.download table root request) := by
  have found := same_alike lawful (Supply.Records.failStop_file table request)
    (Supply.Records.asks_file (Store.open_common ..))
  apply found.bind
  rintro file _ rfl
  split
  · exact .done (.error (lawful.failures _))
  · exact .note (lawful.notes _) (.done (.ok (.redirect _)))

theorem remote_download_alike (request : Request) :
    leeway.likeness.Actions leeway.Outcomes (Supply.Remote.download request)
      (Supply.Remote.download request) := by
  have found := same_alike lawful (Supply.Remote.failStop_metadata request)
    ((Supply.Remote.routine_metadata request).mono Query.Routine.common)
  apply found.bind
  rintro record _ rfl
  split
  · exact .done (.error (lawful.failures _))
  · split
    · exact .note (lawful.notes _) (.done (.ok (.redirect _)))
    · exact .done (.ok (.redirect _))

section Gateway

variable (gateway : Gateway) (request : Request)

theorem supply_download_alike (resolved : Request) :
    leeway.likeness.Actions leeway.Outcomes ((gateway.supply request).download resolved)
      ((gateway.supply request).download resolved) := by
  unfold Gateway.supply Supply.choose
  split
  · exact records_download_alike lawful _ _ resolved
  · split
    · have guarded := same_alike lawful (Supply.Platform.failStop_guard gateway.persona)
        (Supply.Platform.asks_guard _)
      exact guarded.bind fun _ _ _ => platform_download_alike lawful gateway.portalRoot resolved
    · split
      · exact bucket_download_alike lawful _ _ resolved
      · exact remote_download_alike lawful resolved

theorem announced_alike (resolved : Request) {one other : Outcome} (h : leeway.Outcomes one other) :
    leeway.likeness.Actions leeway.Outcomes (Gateway.announced resolved one)
      (Gateway.announced resolved other) := by
  cases h with
  | redirect url => exact .note (lawful.notes _) (.done (.ok (.redirect url)))
  | stream alike => exact .done (.ok (.stream alike))
  | metadata record => exact .done (.ok (.metadata record))

theorem artifact_alike :
    leeway.likeness.Actions leeway.Outcomes (gateway.artifact request)
      (gateway.artifact request) := by
  have supplied := (gateway.routine_supply request request.product).mono Query.Routine.common
  rw [Gateway.artifact_eq]
  have licensed := same_alike lawful (gateway.failStop_licensed request)
    (Gateway.asks_licensed gateway trivial)
  apply licensed.bind
  intro _ _ _
  have resolves := same_alike lawful
    (gateway.failStop_resolved request (gateway.failStop_supply request))
    ((Gateway.asks_resolve supplied).bind fun _ => .done _)
  apply resolves.bind
  rintro resolved _ rfl
  apply (supply_download_alike lawful gateway request resolved).bind
  intro outcome outcome' alike
  exact announced_alike lawful resolved alike

theorem download_alike (base : String) :
    leeway.likeness.Actions leeway.Outcomes (gateway.download base request)
      (gateway.download base request) := by
  apply noting_alike lawful
  cases request.takeMetadataMark? with
  | some unmarked =>
    have supplied := (gateway.routine_supply unmarked unmarked.product).mono Query.Routine.common
    have found := same_alike lawful (gateway.failStop_record unmarked base)
      (Gateway.asks_record base supplied)
    apply found.bind
    rintro record _ rfl
    exact .done (.ok (.metadata record))
  | none => exact artifact_alike lawful gateway request

/-- Whatever a gateway is asked to do, it takes the same steps when it is answered alike. -/
theorem carryOut_alike (task : Gateway.Task) :
    leeway.likeness.Actions (leeway.Values task) (gateway.carryOut task)
      (gateway.carryOut task) := by
  have same (other : ∀ base request, task = .request .download base request →
      request.takeMetadataMark? ≠ none) :
      leeway.likeness.Actions (· = ·) (gateway.carryOut task) (gateway.carryOut task) :=
    same_alike lawful (gateway.failStop_carryOut task)
      ((gateway.routine_carryOut other).mono Query.Routine.common)
  cases task with
  | request operation base request =>
    cases operation with
    | download => exact download_alike lawful gateway request base
    | latestVersion | allVersions | packages | metadata | fileName => exact same (by simp)
  | products | platforms | architectures | packageManagers => exact same (by simp)

/-- What becomes of a task with one company of services differs from what becomes of it with another
no more than their answers do, and so does what happens on the way. -/
theorem play_carryOut_alike {one other : Services} {states : one.State → other.State → Prop}
    (companies : Likeness.Companies leeway.likeness one other states) {start : one.State}
    {start' : other.State} (h : states start start') (task : Gateway.Task) :
    leeway.likeness.Results (leeway.Values task) (one.result (gateway.carryOut task) start)
      (other.result (gateway.carryOut task) start') ∧
    List.Forall₂ leeway.likeness.Events (one.play (gateway.carryOut task) (start, [])).2.2
      (other.play (gateway.carryOut task) (start', [])).2.2 := by
  have played := (carryOut_alike lawful gateway task).play companies h .nil
  exact ⟨played.1, played.2.2⟩

end Gateway

end Leeway

end ReleaseGate
