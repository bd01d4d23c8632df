import ReleaseGate.Proofs.Leeway
import ReleaseGate.Proofs.Managed

/-! Credentials and installation ids authenticate a question, and leave no trace. -/

namespace ReleaseGate

/-- The question without the keys or the installation id that it is asked under. -/
def Query.unsigned : Query → Query
  | .portalDownload url _ => .portalDownload url ""
  | .object opened credentials bucket key =>
    .object opened ⟨"", "", "", credentials.expiresAt⟩ bucket key
  | query => query

namespace Leeway

/-- The services answer the same, but under other credentials that end at the same time, and other
installation ids. -/
def secrets : Leeway where
  failures := (· = ·)
  credentials one other := one.expiresAt = other.expiresAt
  installations _ _ := True
  bodies := (· = ·)
  notes := (· = ·)

theorem secrets_lawful : secrets.Lawful :=
  ⟨fun _ => rfl, fun _ => rfl, fun note _ _ same => congrArg note same⟩

theorem eq_of_artifacts {one other : Artifact} (h : secrets.Artifacts one other) : one = other := by
  have body : one.body = other.body := h.body
  calc
    one = { one with body := other.body } := by rw [← body]
    _ = other := h.same.symm

theorem eq_of_values {task : Gateway.Task} {one other : task.Answer}
    (h : secrets.Values task one other) : one = other := by
  cases task with
  | request operation base request =>
    cases operation with
    | download =>
      cases h with
      | redirect url => rfl
      | stream alike => exact congrArg Outcome.stream (eq_of_artifacts alike)
      | metadata record => rfl
    | latestVersion | allVersions | packages | metadata | fileName => exact h
  | products | platforms | architectures | packageManagers => exact h

theorem unsigned_eq_of_asks {one other : Query} {answers} (h : secrets.Asks one other answers) :
    one.unsigned = other.unsigned := by
  cases h with
  | common | customers | portalDownload | assumeRole => rfl
  | @object session given given' bucket key alike =>
    have same : given.expiresAt = given'.expiresAt := alike
    simp only [Query.unsigned, same]

theorem unsigned_eq_of_events {events events' : List Event}
    (h : List.Forall₂ secrets.likeness.Events events events') :
    (events.filterMap Event.query?).map Query.unsigned =
      (events'.filterMap Event.query?).map Query.unsigned := by
  induction h with
  | nil => rfl
  | cons alike _ ih =>
    cases alike with
    | noted => exact ih
    | asked asks => exact congrArg₂ List.cons (unsigned_eq_of_asks asks) ih

end Leeway

namespace Objects.Credentials

variable {one other : Credentials}

/-- Credentials that end at the same time, under access keys of which the same is shown: the first
four characters, and whether there are none, no more, or more. -/
structure ShownAlike (one other : Credentials) : Prop where
  expiresAt : one.expiresAt = other.expiresAt
  front : one.accessKeyId.toList.take 4 = other.accessKeyId.toList.take 4
  empty : one.accessKeyId = "" ↔ other.accessKeyId = ""
  short : one.accessKeyId.length ≤ 4 ↔ other.accessKeyId.length ≤ 4

theorem ShownAlike.redact_eq (h : ShownAlike one other) :
    Log.redact one.accessKeyId = Log.redact other.accessKeyId := by
  have whole (key : String) : (key.toList.take 4).length = key.toList.length ↔ key.length ≤ 4 := by
    rw [List.length_take, String.length_toList]
    omega
  unfold Log.redact
  simp only [whole, h.short, h.empty]
  rw [h.front]

theorem ShownAlike.describe_eq (h : ShownAlike one other) : one.describe = other.describe := by
  unfold describe
  rw [h.redact_eq, h.expiresAt]

end Objects.Credentials

namespace Gateway

variable {gateway : Gateway} {one other : Services} {states : one.State → other.State → Prop}

/-- Two runs of a task under other credentials and installation ids leave the same log, end in the
same way, and ask the same but for these. Credentials are described without their secrets. -/
theorem secrets_unseen
    (companies : Likeness.Companies Leeway.secrets.likeness one other states)
    {start : one.State} {start' : other.State} (h : states start start') (task : Task) :
    one.log (gateway.carryOut task) start = other.log (gateway.carryOut task) start' ∧
      one.result (gateway.carryOut task) start = other.result (gateway.carryOut task) start' ∧
      (one.asked (gateway.carryOut task) start).map Query.unsigned =
        (other.asked (gateway.carryOut task) start').map Query.unsigned ∧
      ∀ credentials credentials' : Objects.Credentials,
        credentials.ShownAlike credentials' → credentials.describe = credentials'.describe := by
  obtain ⟨results, events⟩ :=
    Leeway.play_carryOut_alike Leeway.secrets_lawful gateway companies h task
  refine ⟨?_, ?_, Leeway.unsigned_eq_of_events events, fun _ _ shown => shown.describe_eq⟩
  · have entries := Likeness.entries_alike events
    simp only [Leeway.likeness, Leeway.secrets, List.forall₂_eq_eq_eq] at entries
    exact entries
  · revert results
    generalize one.result (gateway.carryOut task) start = result
    generalize other.result (gateway.carryOut task) start' = result'
    intro results
    cases results with
    | ok alike => exact congrArg Except.ok (Leeway.eq_of_values alike)
    | error same => exact congrArg Except.error same

/-- A release with one file. -/
def iceRelease : Json :=
  .record [("metadata", .record [("linux", .record [("x86_64", .record
      [("deb", .record [("filename", .text "ice.deb")])])])]),
    ("product", .text "chef-ice"), ("version", .text "19.1.0")]

/-- The release is stored, its file is in the bucket, and the portal has one customer, who is sent
a part of the bundle. -/
def keyed (credentials : Objects.Credentials) (installation : String) : Answers
  | .scan .. => .ok [iceRelease]
  | .item .. => .ok (some iceRelease)
  | .validate _ => .ok true
  | .customerEmail _ => .ok "ops@acme"
  | .customers _ => .ok [{ Supply.Platform.airgapped with installationId := installation }]
  | .portalDownload .. => .ok Supply.Platform.part
  | .session region => .ok ⟨region⟩
  | .assumeRole .. => .ok credentials
  | .object .. => .ok ⟨none, some 0, none, ⟨.empty, none⟩⟩
  | _ => .error .noCandidates

theorem keyed_companies {credentials credentials' : Objects.Credentials}
    (h : credentials.expiresAt = credentials'.expiresAt) (installation installation' : String) :
    Likeness.Companies Leeway.secrets.likeness (.steady (keyed credentials installation))
      (.steady (keyed credentials' installation'))
      fun state state' : Unit => state = state' := by
  apply Likeness.Companies.steady
  intro query query' answers asks
  cases asks with
  | common common =>
    cases query with
    | customers | portalDownload | assumeRole | object => cases common
    | _ => exact Leeway.answers_self Leeway.secrets_lawful (fun _ => rfl) _
  | customers email => exact .cons ⟨rfl, trivial⟩ .nil
  | portalDownload url => exact ⟨rfl, rfl⟩
  | assumeRole opened role => exact h
  | object opened bucket key => exact ⟨rfl, rfl⟩

/-- Keys of one role that end together. -/
def roleKeys (rest : String) : Objects.Credentials := ⟨"LSIA" ++ rest, rest, rest, ⟨0⟩⟩

/-- A gateway with a bucket. -/
def withBucket : Gateway where
  settings := { objects := { region := "eu-west-1", bucket := "releases", role := "arn:role" } }
  portalRoot := ""

def iceDownload : Task := .request .download "" (iceFor "deb")

def bundleDownload : Task := .request .download "" (bundle "tmns-1234")

def servedOne : Services := .steady (keyed (roleKeys "ONE") "inst-1")

def servedOther : Services := .steady (keyed (roleKeys "TWO") "inst-2")

/-- A file and the bundle are handed out under other keys and to another installation, with nothing
to be seen of these. -/
theorem handed_out_unseen :
    ((∃ artifact, servedOne.result (withBucket.carryOut iceDownload) () =
        .ok (.stream artifact)) ∧
      servedOne.log (withBucket.carryOut iceDownload) () =
        servedOther.log (withBucket.carryOut iceDownload) ()) ∧
    ((∃ artifact, servedOne.result (withBucket.carryOut bundleDownload) () =
        .ok (.stream artifact)) ∧
      servedOne.log (withBucket.carryOut bundleDownload) () =
        servedOther.log (withBucket.carryOut bundleDownload) ()) ∧
    (roleKeys "ONE").describe = (roleKeys "TWO").describe := by
  have companies := keyed_companies (show (roleKeys "ONE").expiresAt = (roleKeys "TWO").expiresAt
    from rfl) "inst-1" "inst-2"
  have unseen (task : Task) := @secrets_unseen withBucket _ _ _ companies () () rfl task
  obtain ⟨fileLog, -, -, described⟩ := unseen iceDownload
  obtain ⟨bundleLog, -, -, -⟩ := unseen bundleDownload
  refine ⟨⟨⟨_, rfl⟩, fileLog⟩, ⟨⟨_, rfl⟩, bundleLog⟩, ?_⟩
  exact described _ _ ⟨rfl, by decide, by decide, by decide⟩

end Gateway

end ReleaseGate
