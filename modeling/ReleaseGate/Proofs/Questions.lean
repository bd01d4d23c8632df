import ReleaseGate.Proofs.Mark
import ReleaseGate.Proofs.Operation
import ReleaseGate.Proofs.Resolution

/-! Which questions an action may ask. -/

namespace ReleaseGate

namespace Action

variable {α β : Type} {p : Query → Prop}

/-- Every question of the action is one of these, whatever the answers are. -/
inductive Asks (p : Query → Prop) : Action α → Prop
  | done (result : Except Failure α) : Asks p (.done result)
  | note {entry : Log.Entry} {next : Action α} : Asks p next → Asks p (.note entry next)
  | ask {query : Query} {next : Except Failure query.Answer → Action α} :
      p query → (∀ answer, Asks p (next answer)) → Asks p (.ask query next)

theorem Asks.get {query : Query} (h : p query) : (Action.get query).Asks p :=
  .ask h fun _ => .done _

theorem Asks.followed {action : Action α} {f : Except Failure α → Action β} (h : action.Asks p)
    (after : ∀ result, (f result).Asks p) : (action.followed f).Asks p := by
  induction h with
  | done result => exact after result
  | note _ ih => exact .note ih
  | ask asked _ ih => exact .ask asked ih

theorem Asks.bind {action : Action α} {f : α → Action β} (h : action.Asks p)
    (after : ∀ value, (f value).Asks p) : (action >>= f).Asks p := by
  rw [bind_eq_followed]
  apply h.followed
  intro result
  cases result with
  | ok value => exact after value
  | error failure => exact .done _

theorem Asks.orElse {action : Action α} {f : Failure → Action α} (h : action.Asks p)
    (after : ∀ failure, (f failure).Asks p) : (action.orElse f).Asks p := by
  rw [orElse_eq_followed]
  apply h.followed
  intro result
  cases result with
  | ok value => exact .done _
  | error failure => exact after failure

theorem Asks.noting {action : Action α} {code : String} {message : Failure → String}
    (h : action.Asks p) : (action.noting code message).Asks p :=
  h.orElse fun _ => .note (.done _)

theorem Asks.mono {q : Query → Prop} {action : Action α} (h : action.Asks p)
    (le : ∀ query, p query → q query) : action.Asks q := by
  induction h with
  | done result => exact .done result
  | note _ ih => exact .note ih
  | ask asked _ ih => exact .ask (le _ asked) ih

/-- What holds of the questions an action may ask holds of those that a run of it asks. -/
theorem Asks.of_runs {action : Action α} (h : action.Asks p) {events : List Event}
    {result : Except Failure α} (run : action.Runs events result) {query : Query}
    {answer : Except Failure query.Answer} (asked : .asked query answer ∈ events) : p query := by
  induction run with
  | done result => cases asked
  | note _ ih =>
    cases h with
    | note h =>
      obtain same | later := List.mem_cons.mp asked
      · cases same
      · exact ih h later
  | ask given _ ih =>
    cases h with
    | ask first rest =>
      obtain same | later := List.mem_cons.mp asked
      · cases same
        exact first
      · exact ih (rest given) later

/-- An action runs the same way when the questions it may ask are answered the same way. -/
theorem Asks.run_congr {m : Type → Type} [Monad m] {action : Action α} (h : action.Asks p)
    {answer other : (query : Query) → m (Except Failure query.Answer)}
    (same : ∀ query, p query → answer query = other query) (log : Log.Entry → m Unit) :
    action.run answer log = action.run other log := by
  induction h with
  | done result => rfl
  | note _ ih => simp only [run, ih]
  | ask asked _ ih => simp only [run, same _ asked, ih]

end Action

namespace Store

variable {p : Query → Prop}

/-- All that can be asked of a table about a product is one of these. -/
structure Open (p : Query → Prop) (table product : String) : Prop where
  item : ∀ version, p (.item table product version)
  scan : p (.scan table (some ("product", product)))

namespace Table

variable {α : Type} {table : Table α} {product : String} (h : Open p table.name product)

include h

theorem asks_get (version : String) : (table.get product version).Asks p := by
  unfold get
  apply Action.Asks.bind (.get (h.item version))
  intro item
  cases item with
  | none => exact .done _
  | some item => exact (Action.Asks.done _).bind fun _ => .done _

theorem asks_versions : (table.versions product).Asks p :=
  (Action.Asks.get h.scan).bind fun _ => .done _

theorem asks_latest : (table.latest product).Asks p := by
  unfold latest
  apply (asks_versions h).bind
  intro versions
  split
  · exact .done _
  · apply (asks_get h _).bind
    intro record
    cases record <;> exact .done _

end Table

end Store

namespace Supply

variable {p : Query → Prop} {product : String} {request : Request}

/-- Up to a download, all that the supply asks about a product is one of these. -/
structure Asks (p : Query → Prop) (product : String) (supply : Supply) : Prop where
  latest : ∀ request, request.product = product → (supply.latest request).Asks p
  versions : ∀ request, request.product = product → (supply.versions request).Asks p
  packages : ∀ request, request.product = product → (supply.packages request).Asks p
  metadata : ∀ request, request.product = product → (supply.metadata request).Asks p
  fileName : ∀ request, request.product = product → (supply.fileName request).Asks p

theorem Asks.mono {q : Query → Prop} {supply : Supply} (h : supply.Asks p product)
    (le : ∀ query, p query → q query) : supply.Asks q product where
  latest request same := (h.latest request same).mono le
  versions request same := (h.versions request same).mono le
  packages request same := (h.packages request same).mono le
  metadata request same := (h.metadata request same).mono le
  fileName request same := (h.fileName request same).mono le

theorem asks_found {α : Type} (value : Option α) : (found value).Asks p := by
  cases value <;> exact .done _

theorem asks_named (name : String) : (named name).Asks p := by
  unfold named
  split <;> exact .done _

namespace Records

variable {table : Store.Table Store.FileRelease}

section

variable (h : Store.Open p table.name request.product)

include h

theorem asks_release : (release table request).Asks p :=
  (Store.Table.asks_get h _).bind asks_found

theorem asks_file : (file table request).Asks p :=
  (Action.Asks.done _).bind fun _ => (asks_release h).bind fun _ => asks_found _

theorem asks_fileName : (fileName table request).Asks p :=
  (asks_file h).bind fun file => asks_named file.filename

theorem asks_download (root : String) : (download table root request).Asks p := by
  apply (asks_file h).bind
  intro file
  split
  · exact .done _
  · exact .note (.done _)

end

theorem asks_supply (h : Store.Open p table.name product) (root : String) :
    (supply table root).Asks p product where
  latest := by
    rintro request rfl
    exact (Store.Table.asks_latest h).noting
  versions := by
    rintro request rfl
    exact (Store.Table.asks_versions h).bind fun _ => .done _
  packages := by
    rintro request rfl
    exact (asks_release h).bind fun _ => .done _
  metadata := by
    rintro request rfl
    exact (asks_file h).bind fun _ => .done _
  fileName := by
    rintro request rfl
    exact asks_fileName h

end Records

namespace Bucket

variable {table : Store.Table Store.ManagedRelease}

/-- All that is asked to fetch an object is one of these. -/
structure Fetched (p : Query → Prop) : Prop where
  session : ∀ region, p (.session region)
  role : ∀ session role, p (.assumeRole session role)
  object : ∀ session credentials bucket key, p (.object session credentials bucket key)

section

variable (h : Store.Open p table.name request.product)

include h

theorem asks_release : (release table request).Asks p :=
  (Store.Table.asks_get h _).bind asks_found

theorem asks_file : (file table request).Asks p :=
  (Action.Asks.done _).bind fun _ => (asks_release h).bind fun _ => asks_found _

theorem asks_fileName : (fileName table request).Asks p :=
  (asks_file h).bind fun file => asks_named file.filename

end

theorem asks_supply (h : Store.Open p table.name product) (settings : ObjectSettings) :
    (supply table settings).Asks p product where
  latest := by
    rintro request rfl
    exact (Store.Table.asks_latest h).noting
  versions := by
    rintro request rfl
    exact (Store.Table.asks_versions h).bind fun _ => .done _
  packages := by
    rintro request rfl
    exact (asks_release h).bind fun _ => .done _
  metadata := by
    rintro request rfl
    exact (asks_file h).bind fun _ => .done _
  fileName := by
    rintro request rfl
    exact asks_fileName h

theorem asks_fetch (fetched : Fetched p) (settings : ObjectSettings) (request : Request)
    (filename : String) : (fetch settings request filename).Asks p := by
  apply Action.Asks.note
  apply (Action.Asks.noting (.get (fetched.session _))).bind
  intro session
  apply (Action.Asks.noting (.get (fetched.role _ _))).bind
  intro credentials
  exact (Action.Asks.noting (.get (fetched.object _ _ _ _))).bind fun _ => .done _

theorem asks_download (h : Store.Open p table.name request.product) (fetched : Fetched p)
    (settings : ObjectSettings) : (download table settings request).Asks p := by
  apply (Action.Asks.noting (.done _)).bind
  intro _
  apply (asks_fileName h).bind
  intro filename
  exact .note ((asks_fetch fetched settings request filename).bind fun _ => .done _)

end Bucket

namespace Platform

theorem asks_guard (persona : Persona) : (guard persona).Asks p := by
  unfold guard
  split <;> exact .done _

/-- Up to a download of the bundle nobody is asked. -/
theorem asks_supply (persona : Persona) (portalRoot : String) :
    (supply persona portalRoot).Asks p product where
  latest _ _ := (asks_guard persona).bind fun _ => .done _
  versions _ _ := (asks_guard persona).bind fun _ => .done _
  packages _ _ := (asks_guard persona).bind fun _ => .done _
  metadata _ _ := (asks_guard persona).bind fun _ => .done _
  fileName _ _ := (asks_guard persona).bind fun _ => .done _

end Platform

end Supply

theorem Request.takeMetadataMark?_kept {request unmarked : Request}
    (h : request.takeMetadataMark? = some unmarked) :
    unmarked.channel = request.channel ∧ unmarked.product = request.product := by
  obtain ⟨_, _, _, _, rfl⟩ := takeMetadataMark?_changes h
  exact ⟨rfl, rfl⟩

namespace Gateway

variable {gateway : Gateway} {p : Query → Prop} {request : Request}

theorem asks_checkEndOfLife (gateway : Gateway) (request : Request) :
    (gateway.checkEndOfLife request).Asks p := by
  unfold checkEndOfLife
  split
  · exact .done _
  · split <;> exact .done _

theorem asks_checkLicense {license : String} (h : p (.validate license)) :
    (checkLicense license).Asks p := by
  apply (Action.Asks.get h).bind
  intro valid
  cases valid <;> exact .note (.done _)

theorem asks_licensed (gateway : Gateway) (h : p (.validate request.licenseId)) :
    (gateway.licensed request).Asks p := by
  unfold licensed
  split
  · exact asks_checkLicense h
  · exact .done _

theorem asks_announced (resolved : Request) (outcome : Outcome) :
    (announced resolved outcome).Asks p := by
  cases outcome with
  | redirect url => exact .note (.done _)
  | stream artifact => exact .done _
  | metadata record => exact .done _

theorem asks_resolve {supply : Supply} (h : supply.Asks p request.product) :
    (gateway.resolve supply request).Asks p := by
  rw [resolve_eq]
  apply (asks_checkEndOfLife gateway request).bind
  intro _
  apply (h.versions request rfl).bind
  intro versions
  exact (Action.Asks.done _).bind fun _ => .note (.done _)

/-- Whatever is done with a resolved request, it is for the same product. -/
theorem asks_resolved_bind {supply : Supply} (h : supply.Asks p request.product) {α : Type}
    {f : Request → Action α}
    (after : ∀ resolved, resolved.product = request.product → (f resolved).Asks p) :
    (gateway.resolved supply request >>= f).Asks p := by
  unfold resolved
  simp only [bind_assoc, pure_bind]
  exact (asks_resolve h).bind fun _ => after _ rfl

theorem asks_record (base : String) (h : (gateway.supply request).Asks p request.product) :
    (gateway.record base request).Asks p := by
  apply asks_resolved_bind h
  intro resolved product
  exact (h.metadata resolved product).bind fun _ => .done _

theorem asks_artifact (h : (gateway.supply request).Asks p request.product)
    (validate : p (.validate request.licenseId))
    (download : ∀ resolved, resolved.product = request.product →
      ((gateway.supply request).download resolved).Asks p) : (gateway.artifact request).Asks p := by
  rw [artifact_eq]
  apply (asks_licensed gateway validate).bind
  intro _
  apply asks_resolved_bind h
  intro resolved product
  exact (download resolved product).bind (asks_announced resolved)

/-- What an operation asks is what its supply asks. A download may check the license as well. -/
theorem asks_perform (base : String) {operation : Operation}
    (h : (gateway.supply request).Asks p request.product)
    (validate : p (.validate request.licenseId))
    (download : operation = .download → request.takeMetadataMark? = none →
      ∀ resolved, resolved.product = request.product →
        ((gateway.supply request).download resolved).Asks p) :
    (gateway.perform base request operation).Asks p := by
  cases operation with
  | latestVersion =>
    apply Action.Asks.noting
    apply (h.latest request rfl).bind
    intro latest
    split
    · exact .done _
    · exact asks_resolve h
  | allVersions =>
    apply Action.Asks.noting
    apply (h.versions request rfl).bind
    intro versions
    dsimp only
    split <;> exact .done _
  | packages =>
    apply Action.Asks.noting
    apply asks_resolved_bind h
    intro resolved product
    exact (h.packages resolved product).bind fun _ => .note (.done _)
  | metadata => exact (asks_record base h).noting
  | fileName =>
    apply Action.Asks.noting
    exact asks_resolved_bind h h.fileName
  | download =>
    apply Action.Asks.noting
    cases marked : request.takeMetadataMark? with
    | some unmarked =>
      obtain ⟨channel, product⟩ := Request.takeMetadataMark?_kept marked
      have h' : (gateway.supply unmarked).Asks p unmarked.product := by
        rw [supply_congr gateway channel product, product]
        exact h
      exact (asks_record base h').bind fun _ => .done _
    | none => exact asks_artifact h validate (download rfl marked)

end Gateway

/-- What is asked without an artifact being fetched. -/
def Query.Routine : Query → Prop
  | .customerEmail _ | .customers _ | .portalDownload .. => False
  | .session _ | .assumeRole .. | .object .. => False
  | _ => True

/-- What is asked on the way from a license to the bundle of its customer. -/
def Query.Entitling : Query → Prop
  | .customerEmail _ | .customers _ | .portalDownload .. => True
  | _ => False

theorem Query.Routine.not_entitling (query : Query) (h : query.Routine) : ¬ query.Entitling := by
  cases query <;> first | exact id | cases h

/-- Nothing is asked on the way from a license to a bundle. -/
abbrev Action.Plain {α : Type} (action : Action α) : Prop := action.Asks (¬ ·.Entitling)

namespace Supply

/-- No artifact is fetched from a table. -/
theorem routine_open (table product : String) : Store.Open Query.Routine table product :=
  ⟨fun _ => trivial, trivial⟩

theorem plain_open (table product : String) : Store.Open (¬ ·.Entitling) table product :=
  ⟨fun _ => id, id⟩

theorem plain_fetched : Bucket.Fetched (¬ ·.Entitling) :=
  ⟨fun _ => id, fun _ _ => id, fun _ _ _ _ => id⟩

namespace Remote

theorem routine_metadata (request : Request) : (metadata request).Asks Query.Routine :=
  (Action.Asks.done _).bind fun _ => .get trivial

theorem routine_supply (product : String) : supply.Asks Query.Routine product where
  latest _ _ := .get trivial
  versions _ _ := .note (.get trivial)
  packages _ _ := (Action.Asks.get trivial).bind fun _ => .done _
  metadata request _ := routine_metadata request
  fileName request _ := (routine_metadata request).bind fun _ => asks_named _

/-- Nothing is fetched from the catalog; the caller is sent to the place of the artifact. -/
theorem routine_download (request : Request) : (download request).Asks Query.Routine := by
  apply (routine_metadata request).bind
  intro record
  split
  · exact .done _
  · split
    · exact .note (.done _)
    · exact .done _

end Remote

end Supply

namespace Gateway

variable (gateway : Gateway)

theorem routine_supply (request : Request) (product : String) :
    (gateway.supply request).Asks Query.Routine product := by
  unfold supply Supply.choose
  split
  · exact Supply.Records.asks_supply (Supply.routine_open _ _) _
  · split
    · exact Supply.Platform.asks_supply _ _
    · split
      · exact Supply.Bucket.asks_supply (Supply.routine_open _ _) _
      · exact Supply.Remote.routine_supply _

theorem plain_supply (request : Request) (product : String) :
    (gateway.supply request).Asks (¬ ·.Entitling) product :=
  (gateway.routine_supply request product).mono Query.Routine.not_entitling

/-- Only a download of the bundle leads from a license to it. -/
theorem plain_supply_download {request : Request} (other : request.product ≠ platformProduct)
    (resolved : Request) : ((gateway.supply request).download resolved).Plain := by
  unfold supply Supply.choose
  rw [if_neg other]
  split
  · exact Supply.Records.asks_download (Supply.plain_open _ _) _
  · split
    · exact Supply.Bucket.asks_download (Supply.plain_open _ _) Supply.plain_fetched _
    · exact (Supply.Remote.routine_download _).mono Query.Routine.not_entitling

/-- No operation asks on the way from a license to the bundle, except a download of the bundle that
is not one of its metadata. -/
theorem plain_perform (base : String) {request : Request} {operation : Operation}
    (other : operation = .download → request.takeMetadataMark? = none →
      request.product ≠ platformProduct) : (gateway.perform base request operation).Plain := by
  apply asks_perform base (gateway.plain_supply request _) id
  intro download unmarked resolved _
  exact gateway.plain_supply_download (other download unmarked) resolved

/-- Whatever is asked of a gateway, except a download that is not one of metadata, no artifact is
fetched. -/
theorem routine_carryOut {task : Task}
    (other : ∀ base request, task = .request .download base request →
      request.takeMetadataMark? ≠ none) : (gateway.carryOut task).Asks Query.Routine := by
  cases task with
  | request operation base request =>
    apply asks_perform base (gateway.routine_supply request _) trivial
    rintro rfl unmarked
    exact absurd unmarked (other base request rfl)
  | products eol => exact Action.Asks.noting ((Action.Asks.get trivial).bind fun _ => .done _)
  | platforms => exact Action.Asks.noting ((Action.Asks.get trivial).bind fun _ => .done _)
  | architectures => exact Action.Asks.noting (.get trivial)
  | packageManagers =>
    apply Action.Asks.noting
    apply (Action.Asks.get trivial).bind
    intro items
    exact (Action.Asks.done _).bind fun _ => .done _

theorem plain_carryOut {task : Task}
    (other : ∀ base request, task = .request .download base request →
      request.takeMetadataMark? = none → request.product ≠ platformProduct) :
    (gateway.carryOut task).Plain := by
  cases task with
  | request operation base request =>
    apply gateway.plain_perform base
    rintro rfl
    exact other base request rfl
  | products | platforms | architectures | packageManagers =>
    exact (gateway.routine_carryOut (by simp)).mono Query.Routine.not_entitling

end Gateway

end ReleaseGate
