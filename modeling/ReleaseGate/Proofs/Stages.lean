import ReleaseGate.Proofs.FailStop

/-! How far a download from a bucket comes: what is asked on the way, where it can stop, and what
the caller gets. -/

namespace ReleaseGate.Request

variable {request : Request} {parts : List Part}

/-- The part is the first of some that the request lacks. -/
def Lacks (request : Request) (parts : List Part) (part : Part) : Prop :=
  ∃ before after, parts = before ++ part :: after ∧ (∀ other ∈ before, other.value request ≠ "") ∧
    part.value request = ""

theorem demand_eq_ok_iff :
    request.demand parts = .ok () ↔ ∀ part ∈ parts, part.value request ≠ "" := by
  induction parts with
  | nil => simp [demand]
  | cons part rest ih =>
    rw [demand, List.forall_mem_cons]
    split
    · rename_i missing
      simp [missing]
    · rename_i there
      simp [there, ih]

theorem demand_eq_error_iff {failure : Failure} :
    request.demand parts = .error failure ↔
      ∃ part, request.Lacks parts part ∧ failure = part.absent := by
  induction parts with
  | nil => simp [demand, Lacks]
  | cons part rest ih =>
    rw [demand]
    split
    · rename_i missing
      constructor
      · rintro ⟨⟩
        exact ⟨part, ⟨[], rest, rfl, by simp, missing⟩, rfl⟩
      · rintro ⟨first, ⟨before, after, split, there, _⟩, rfl⟩
        cases before with
        | nil =>
          cases split
          rfl
        | cons other before =>
          cases split
          exact absurd missing (there part List.mem_cons_self)
    · rename_i there
      rw [ih]
      constructor
      · rintro ⟨first, ⟨before, after, rfl, filled, missing⟩, rfl⟩
        exact ⟨first, ⟨part :: before, after, rfl, by simpa [there] using filled, missing⟩, rfl⟩
      · rintro ⟨first, ⟨before, after, split, filled, missing⟩, rfl⟩
        cases before with
        | nil =>
          cases split
          exact absurd missing there
        | cons other before =>
          cases split
          exact ⟨first, ⟨before, after, rfl, (List.forall_mem_cons.mp filled).2, missing⟩, rfl⟩

end ReleaseGate.Request

namespace ReleaseGate.Supply.Bucket

open Store (ManagedFile ManagedRelease Table)

section Stages

variable (table : Table ManagedRelease) (settings : ObjectSettings) (request : Request)

/-- What a stored item says of the file name that is wanted. -/
inductive Written : Option Json → Except Failure String → Prop
  | absent : Written none (.error unknownProduct)
  | unreadable {item : Json} {failure : Failure} :
      table.read item = .error failure → Written (some item) (.error failure)
  | unknown {item : Json} {release : ManagedRelease} :
      table.read item = .ok release →
      (∀ file, release.files.get? request.platform request.architecture request.packageManager =
        some file → file = {}) →
      Written (some item) (.error unknownProduct)
  | unnamed {item : Json} {release : ManagedRelease} {file : ManagedFile} :
      table.read item = .ok release →
      release.files.get? request.platform request.architecture request.packageManager = some file →
      file ≠ {} → file.filename = "" → Written (some item) (.error unnamedFile)
  | named {item : Json} {release : ManagedRelease} {file : ManagedFile} :
      table.read item = .ok release →
      release.files.get? request.platform request.architecture request.packageManager = some file →
      file.filename ≠ "" → Written (some item) (.ok file.filename)

/-- The parts that the target of a request needs. -/
def target : List Part := [.platform, .architecture, .packageManager]

/-- What is asked for the name of a file: nothing for a target that is not complete, and else one
item of the store. -/
inductive Names : List Event → Except Failure String → Prop
  | incomplete {part : Part} : request.Lacks target part → Names [] (.error part.absent)
  | unanswered (failure : Failure) : (∀ part ∈ target, part.value request ≠ "") →
      Names [.asked (.item table.name request.product request.version) (.error failure)]
        (.error failure)
  | answered {item : Option Json} {result : Except Failure String} :
      (∀ part ∈ target, part.value request ≠ "") → Written table request item result →
      Names [.asked (.item table.name request.product request.version) (.ok item)] result

/-- What is asked for an object: a session, then the credentials of the role in it, then the object
with both. The first that is not given ends it. -/
inductive Brings (key : String) : List Event → Except Failure Objects.Stored → Prop
  | noSession (failure : Failure) :
      Brings key [.asked (.session settings.region) (.error failure)] (.error failure)
  | noRole (session : Objects.Session) (failure : Failure) :
      Brings key
        [.asked (.session settings.region) (.ok session),
          .asked (.assumeRole session settings.role) (.error failure)]
        (.error failure)
  | noObject (session : Objects.Session) (credentials : Objects.Credentials) (failure : Failure) :
      Brings key
        [.asked (.session settings.region) (.ok session),
          .asked (.assumeRole session settings.role) (.ok credentials),
          .asked (.object session credentials settings.bucket key) (.error failure)]
        (.error failure)
  | object (session : Objects.Session) (credentials : Objects.Credentials)
      (object : Objects.Stored) :
      Brings key
        [.asked (.session settings.region) (.ok session),
          .asked (.assumeRole session settings.role) (.ok credentials),
          .asked (.object session credentials settings.bucket key) (.ok object)]
        (.ok object)

/-- The headers that an object came with, and a disposition in any case. -/
def headersOf (object : Objects.Stored) (filename : String) : List (String × String) :=
  object.contentType.toList.map ("content-type", ·) ++
    object.contentLength.toList.map (fun length => ("content-length", toString length)) ++
    [("content-disposition", object.contentDisposition.getD ("attachment; filename=" ++ filename))]

/-- The artifact that is sent for an object. -/
structure Sent (object : Objects.Stored) (filename : String) (sent : Artifact) : Prop where
  status : sent.status = 200
  headers : sent.headers = headersOf object filename
  body : sent.body = object.body

/-- What is asked for a download, and what comes of it: nothing while a setting that it needs is
blank, then the name of the file, then the object. -/
inductive Goes : List Event → Except Failure Outcome → Prop
  | lacking : settings.lacking ≠ [] →
      Goes []
        (.error (.config ("object store configuration is incomplete for download (missing " ++
          ", ".intercalate settings.lacking ++ ")")))
  | nameless {calls : List Event} {failure : Failure} : settings.lacking = [] →
      Names table request calls (.error failure) → Goes calls (.error failure)
  | stopped {asked calls : List Event} {filename : String} {failure : Failure} :
      settings.lacking = [] → Names table request asked (.ok filename) →
      Brings settings (key settings request filename) calls (.error failure) →
      Goes (asked ++ calls) (.error failure)
  | sent {asked calls : List Event} {filename : String} {object : Objects.Stored}
      {artifact : Artifact} :
      settings.lacking = [] → Names table request asked (.ok filename) →
      Brings settings (key settings request filename) calls (.ok object) →
      Sent object filename artifact → Goes (asked ++ calls) (.ok (.stream artifact))

end Stages

variable {table : Table ManagedRelease} {settings : ObjectSettings} {request : Request}
  {calls : List Event}

/-- The file name that a stored item says. -/
def nameIn (table : Table ManagedRelease) (request : Request) : Option Json → Except Failure String
  | none => .error unknownProduct
  | some item =>
    (table.read item).bind fun release =>
      match choose? request release with
      | none => .error unknownProduct
      | some file => if file.filename = "" then .error unnamedFile else .ok file.filename

theorem choose?_eq_some_iff {release : ManagedRelease} {file : ManagedFile} :
    choose? request release = some file ↔
      release.files.get? request.platform request.architecture request.packageManager =
        some file ∧ file ≠ {} := by
  simp [choose?, Option.filter_eq_some_iff]

theorem choose?_eq_none_iff {release : ManagedRelease} :
    choose? request release = none ↔
      ∀ file, release.files.get? request.platform request.architecture request.packageManager =
        some file → file = {} := by
  simp [choose?, Option.filter_eq_none_iff]

theorem written_iff {item : Option Json} {result : Except Failure String} :
    Written table request item result ↔ result = nameIn table request item := by
  constructor
  · intro written
    cases written with
    | absent => rfl
    | unreadable failed => simp [nameIn, failed, Except.bind]
    | unknown read silent =>
      simp [nameIn, read, Except.bind, choose?_eq_none_iff.mpr silent]
    | unnamed read there told empty =>
      simp [nameIn, read, Except.bind, choose?_eq_some_iff.mpr ⟨there, told⟩, empty]
    | @named _ _ file read there filled =>
      have told : file ≠ {} := by
        rintro rfl
        exact filled rfl
      simp [nameIn, read, Except.bind, choose?_eq_some_iff.mpr ⟨there, told⟩, filled]
  · rintro rfl
    unfold nameIn
    split
    · exact .absent
    · rename_i item
      cases read : table.read item with
      | error failure => exact .unreadable read
      | ok release =>
        dsimp only [Except.bind]
        split
        · rename_i unchosen
          exact .unknown read (choose?_eq_none_iff.mp unchosen)
        · rename_i file chosen
          obtain ⟨there, told⟩ := choose?_eq_some_iff.mp chosen
          split
          · rename_i empty
            exact .unnamed read there told empty
          · rename_i filled
            exact .named read there filled

theorem fileName_eq : fileName table request = (do
    .ofExcept (request.demand target)
    .ofExcept (nameIn table request
      (← Action.get (.item table.name request.product request.version)))) := by
  unfold fileName file release Table.get
  simp only [bind_assoc]
  congr 1
  funext _
  congr 1
  funext item
  cases item with
  | none => rfl
  | some item =>
    dsimp only [nameIn]
    cases table.read item with
    | error failure => rfl
    | ok release =>
      change (found (choose? request release) >>= fun file => named file.filename) = .ofExcept _
      dsimp only [Except.bind]
      cases choose? request release with
      | none => rfl
      | some file =>
        change named file.filename = _
        unfold named
        dsimp only
        split <;> rfl

theorem calls_fileName_iff {result : Except Failure String} :
    (fileName table request).Calls calls result ↔ Names table request calls result := by
  rw [fileName_eq, Action.calls_bind_iff]
  simp only [Action.calls_ofExcept_iff]
  constructor
  · rintro (⟨failure, rfl, rfl, failed⟩ | ⟨_, _, _, rfl, ⟨rfl, complete⟩, run⟩)
    · obtain ⟨part, lacks, rfl⟩ := Request.demand_eq_error_iff.mp failed.symm
      exact .incomplete lacks
    · have filled := Request.demand_eq_ok_iff.mp complete.symm
      obtain ⟨failure, rfl, rfl⟩ | ⟨item, _, rfl, read⟩ := Action.calls_get_bind_iff.mp run
      · exact .unanswered failure filled
      · obtain ⟨rfl, rfl⟩ := Action.calls_ofExcept_iff.mp read
        exact .answered filled (written_iff.mpr rfl)
  · intro names
    cases names with
    | incomplete lacks =>
      exact .inl ⟨_, rfl, rfl, (Request.demand_eq_error_iff.mpr ⟨_, lacks, rfl⟩).symm⟩
    | unanswered failure filled =>
      have complete := Request.demand_eq_ok_iff.mpr filled
      refine .inr ⟨(), [], _, rfl, ⟨rfl, complete.symm⟩, Action.calls_get_bind_iff.mpr ?_⟩
      exact .inl ⟨failure, rfl, rfl⟩
    | @answered item _ filled written =>
      have complete := Request.demand_eq_ok_iff.mpr filled
      refine .inr ⟨(), [], _, rfl, ⟨rfl, complete.symm⟩, Action.calls_get_bind_iff.mpr ?_⟩
      exact .inr ⟨item, [], rfl, Action.calls_ofExcept_iff.mpr ⟨rfl, written_iff.mp written⟩⟩

theorem artifact_eq (object : Objects.Stored) (filename : String) :
    artifact object filename = ⟨200, headersOf object filename, object.body⟩ := by
  have type : Text.lowerAscii "content-type" = "content-type" := by decide +kernel
  have length : Text.lowerAscii "content-length" = "content-length" := by decide +kernel
  have disposition : Text.lowerAscii "content-disposition" = "content-disposition" := by
    decide +kernel
  unfold artifact Artifact.setHeader headersOf
  rw [type, length, disposition]
  cases object.contentType <;> cases object.contentLength <;> simp

theorem sent_iff {object : Objects.Stored} {filename : String} {sent : Artifact} :
    Sent object filename sent ↔ sent = artifact object filename := by
  rw [artifact_eq]
  constructor
  · obtain ⟨status, headers, body⟩ := sent
    rintro ⟨rfl, rfl, rfl⟩
    rfl
  · rintro rfl
    exact ⟨rfl, rfl, rfl⟩

theorem calls_fetch_iff {filename : String} {result : Except Failure Artifact} :
    (fetch settings request filename).Calls calls result ↔
      ∃ given, Brings settings (key settings request filename) calls given ∧
        result = given.map (artifact · filename) := by
  unfold fetch
  dsimp only
  rw [Action.debug_bind, Action.calls_note_iff]
  constructor
  · intro run
    obtain ⟨failure, rfl, rfl⟩ | ⟨session, _, rfl, later⟩ :=
      Action.calls_noting_get_bind_iff.mp run
    · exact ⟨_, .noSession failure, rfl⟩
    obtain ⟨failure, rfl, rfl⟩ | ⟨credentials, _, rfl, last⟩ :=
      Action.calls_noting_get_bind_iff.mp later
    · exact ⟨_, .noRole session failure, rfl⟩
    obtain ⟨failure, rfl, rfl⟩ | ⟨object, _, rfl, done⟩ := Action.calls_noting_get_bind_iff.mp last
    · exact ⟨_, .noObject session credentials failure, rfl⟩
    obtain ⟨rfl, rfl⟩ := Action.calls_pure_iff.mp done
    exact ⟨_, .object session credentials object, rfl⟩
  · rintro ⟨given, brings, rfl⟩
    cases brings with
    | noSession failure => exact Action.calls_noting_get_bind_iff.mpr (.inl ⟨failure, rfl, rfl⟩)
    | noRole session failure =>
      refine Action.calls_noting_get_bind_iff.mpr (.inr ⟨session, _, rfl, ?_⟩)
      exact Action.calls_noting_get_bind_iff.mpr (.inl ⟨failure, rfl, rfl⟩)
    | noObject session credentials failure =>
      refine Action.calls_noting_get_bind_iff.mpr (.inr ⟨session, _, rfl, ?_⟩)
      refine Action.calls_noting_get_bind_iff.mpr (.inr ⟨credentials, _, rfl, ?_⟩)
      exact Action.calls_noting_get_bind_iff.mpr (.inl ⟨failure, rfl, rfl⟩)
    | object session credentials object =>
      refine Action.calls_noting_get_bind_iff.mpr (.inr ⟨session, _, rfl, ?_⟩)
      refine Action.calls_noting_get_bind_iff.mpr (.inr ⟨credentials, _, rfl, ?_⟩)
      refine Action.calls_noting_get_bind_iff.mpr (.inr ⟨object, [], rfl, ?_⟩)
      exact Action.calls_pure_iff.mpr ⟨rfl, rfl⟩

theorem check_of_lacking (blank : settings.lacking ≠ []) : settings.check =
    .error (.config ("object store configuration is incomplete for download (missing " ++
      ", ".intercalate settings.lacking ++ ")")) :=
  if_neg (by simpa using blank)

theorem check_of_filled (filled : settings.lacking = []) : settings.check = .ok () :=
  if_pos (by simp [filled])

theorem calls_download_iff {result : Except Failure Outcome} :
    (download table settings request).Calls calls result ↔
      Goes table settings request calls result := by
  unfold download
  rw [Action.calls_bind_iff]
  simp only [Action.calls_noting_iff, Action.calls_ofExcept_iff]
  by_cases filled : settings.lacking = []
  · rw [check_of_filled filled]
    constructor
    · rintro (⟨_, _, _, ⟨⟩⟩ | ⟨_, _, calls, rfl, ⟨rfl, _⟩, run⟩)
      rw [List.nil_append]
      obtain ⟨failure, rfl, names⟩ | ⟨filename, asked, later, rfl, names, rest⟩ :=
        Action.calls_bind_iff.mp run
      · exact .nameless filled (calls_fileName_iff.mp names)
      · rw [Action.info_bind, Action.calls_note_iff] at rest
        obtain ⟨given, fetched, rfl⟩ := Action.calls_bind_pure_iff.mp rest
        obtain ⟨brought, brings, rfl⟩ := calls_fetch_iff.mp fetched
        cases brought with
        | error failure => exact .stopped filled (calls_fileName_iff.mp names) brings
        | ok object => exact .sent filled (calls_fileName_iff.mp names) brings (sent_iff.mpr rfl)
    · intro goes
      refine .inr ⟨(), [], calls, rfl, ⟨rfl, rfl⟩, Action.calls_bind_iff.mpr ?_⟩
      cases goes with
      | lacking blank => exact absurd filled blank
      | nameless _ names => exact .inl ⟨_, rfl, calls_fileName_iff.mpr names⟩
      | @stopped asked calls filename failure _ names brings =>
        refine .inr ⟨filename, asked, calls, rfl, calls_fileName_iff.mpr names, ?_⟩
        rw [Action.info_bind, Action.calls_note_iff]
        exact Action.calls_bind_pure_iff.mpr ⟨_, calls_fetch_iff.mpr ⟨_, brings, rfl⟩, rfl⟩
      | @sent asked calls filename object artifact _ names brings sent =>
        refine .inr ⟨filename, asked, calls, rfl, calls_fileName_iff.mpr names, ?_⟩
        rw [Action.info_bind, Action.calls_note_iff, sent_iff.mp sent]
        exact Action.calls_bind_pure_iff.mpr ⟨_, calls_fetch_iff.mpr ⟨_, brings, rfl⟩, rfl⟩
  · rw [check_of_lacking filled]
    constructor
    · rintro (⟨failure, rfl, rfl, same⟩ | ⟨_, _, _, _, ⟨_, ⟨⟩⟩, _⟩)
      cases same
      exact .lacking filled
    · intro goes
      cases goes with
      | lacking blank => exact .inl ⟨_, rfl, rfl, rfl⟩
      | nameless blank | stopped blank | sent blank => exact absurd blank filled

/-- The segments of a key: those of the channel path, the product, the version, the platform, the
architecture and the file name. -/
def segments (settings : ObjectSettings) (request : Request) (filename : String) :
    List (List Char) :=
  [channelPath settings request.channel, request.product, request.version, request.platform,
    request.architecture, filename].flatMap Text.segments

/-- A key comes apart into its segments, and is empty if it has none. -/
theorem pieces_key (settings : ObjectSettings) (request : Request) (filename : String) :
    Text.pieces '/' (key settings request filename).toList =
      if segments settings request filename = [] then [[]]
      else segments settings request filename :=
  Text.pieces_joined_segments _

theorem mem_lacking_iff {name : String} : name ∈ settings.lacking ↔
    (name, true) ∈ [("region", Text.blank settings.region), ("bucket", Text.blank settings.bucket),
      ("role_arn", Text.blank settings.role)] := by
  unfold ObjectSettings.lacking
  grind

/-- Where there is a name, an item said it. -/
theorem Names.answer {filename : String} (h : Names table request calls (.ok filename)) :
    ∃ item, calls =
      [.asked (.item table.name request.product request.version) (.ok (some item))] := by
  cases h with
  | answered _ written =>
    cases written with
    | named => exact ⟨_, rfl⟩

theorem Names.queries_prefix {result : Except Failure String}
    (h : Names table request calls result) :
    calls.filterMap Event.query? <+: [.item table.name request.product request.version] := by
  cases h with
  | incomplete => exact List.nil_prefix
  | unanswered | answered => exact List.prefix_refl _

theorem Brings.queries_prefix {key : String} {result : Except Failure Objects.Stored}
    (h : Brings settings key calls result) :
    ∃ session credentials, calls.filterMap Event.query? <+:
      [.session settings.region, .assumeRole session settings.role,
        .object session credentials settings.bucket key] := by
  have nobody : Objects.Credentials := ⟨"", "", "", ⟨0⟩⟩
  cases h with
  | noSession => exact ⟨⟨""⟩, nobody, List.prefix_append [_] _⟩
  | noRole session => exact ⟨session, nobody, List.prefix_append [_, _] _⟩
  | noObject session credentials | object session credentials =>
    exact ⟨session, credentials, List.prefix_refl _⟩

/-- The item, the session, the credentials and the object are asked for in this order, each once at
most and each with what was given before. -/
theorem Goes.queries_prefix {result : Except Failure Outcome}
    (h : Goes table settings request calls result) :
    ∃ filename session credentials, calls.filterMap Event.query? <+:
      [.item table.name request.product request.version, .session settings.region,
        .assumeRole session settings.role,
        .object session credentials settings.bucket (key settings request filename)] := by
  have nobody : Objects.Credentials := ⟨"", "", "", ⟨0⟩⟩
  cases h with
  | lacking => exact ⟨"", ⟨""⟩, nobody, List.nil_prefix⟩
  | nameless _ names =>
    exact ⟨"", ⟨""⟩, nobody, names.queries_prefix.trans (List.prefix_append [_] _)⟩
  | @stopped _ _ filename _ _ names brings | @sent _ _ filename _ _ _ names brings =>
    obtain ⟨item, rfl⟩ := names.answer
    obtain ⟨session, credentials, way⟩ := brings.queries_prefix
    exact ⟨filename, session, credentials, (List.prefix_cons_inj _).mpr way⟩

/-- A question that fails is the last one, and its failure is what comes of the download. -/
theorem Goes.stops {result : Except Failure Outcome} {query : Query} {failure : Failure}
    (h : Goes table settings request calls result)
    (failed : Event.asked query (.error failure) ∈ calls) :
    calls.getLast? = some (.asked query (.error failure)) ∧ result = .error failure := by
  obtain ⟨filename, session, credentials, way⟩ := h.queries_prefix
  have asked : query ∈ calls.filterMap Event.query? :=
    List.mem_filterMap.mpr ⟨_, failed, rfl⟩
  have plain : query.told failure = failure := by
    have among := way.subset asked
    simp only [List.mem_cons, List.not_mem_nil, or_false] at among
    obtain rfl | rfl | rfl | rfl := among <;> rfl
  obtain ⟨before, after, rfl⟩ := List.append_of_mem failed
  obtain ⟨rfl, told⟩ :=
    (failStop_download table settings request).of_calls (calls_download_iff.mpr h) rfl
  exact ⟨List.getLast?_concat, told.trans (congrArg _ plain)⟩

/-- A download from a bucket goes one way and no further than the first thing that fails, which the
caller is told as it is. Blank settings keep it from asking anything, and a file without a name
keeps it from asking for more than the item of the release. An object is asked for by a key that
comes apart into the segments of what it is made of. -/
theorem download_in_stages (table : Table ManagedRelease) (settings : ObjectSettings)
    (request : Request) :
    (∀ calls result, (download table settings request).Calls calls result ↔
      Goes table settings request calls result) ∧
    (∀ (services : Services) (start : services.State),
      Goes table settings request
        (Event.calls (services.play (download table settings request) (start, [])).2.2)
        (services.result (download table settings request) start)) ∧
    (∀ name, name ∈ settings.lacking ↔
      (name, true) ∈ [("region", Text.blank settings.region),
        ("bucket", Text.blank settings.bucket), ("role_arn", Text.blank settings.role)]) ∧
    (∀ filename, Text.pieces '/' (key settings request filename).toList =
      if segments settings request filename = [] then [[]]
      else segments settings request filename) ∧
    (∀ calls result, Names table request calls result →
      calls.filterMap Event.query? <+: [.item table.name request.product request.version]) ∧
    ∀ calls result, Goes table settings request calls result →
      (∀ query failure, .asked query (.error failure) ∈ calls →
        calls.getLast? = some (.asked query (.error failure)) ∧ result = .error failure) ∧
      ∃ filename session credentials, calls.filterMap Event.query? <+:
        [.item table.name request.product request.version, .session settings.region,
          .assumeRole session settings.role,
          .object session credentials settings.bucket (key settings request filename)] := by
  refine ⟨fun _ _ => calls_download_iff, ?_, fun _ => mem_lacking_iff, pieces_key settings request,
    fun _ _ names => names.queries_prefix,
    fun _ _ goes => ⟨fun _ _ => goes.stops, goes.queries_prefix⟩⟩
  intro services start
  exact calls_download_iff.mp (services.calls_play _ start)

end ReleaseGate.Supply.Bucket
