import ReleaseGate.Proofs.Numbers
import ReleaseGate.Proofs.Operation
import ReleaseGate.Proofs.Ranges
import ReleaseGate.Proofs.Resolution

/-! What a request comes to when a supported version satisfies it. -/

namespace ReleaseGate

namespace Core

/-- The numbers of a core are the first of another's, with zeros for the rest. -/
def Opens (one other : Core) : Prop :=
  ∃ first rest : List Nat, first ≠ [] ∧ one = ofNumbers first ∧ other = ofNumbers (first ++ rest)

theorem Opens.major_eq {one other : Core} (h : Opens one other) : one.major = other.major := by
  obtain ⟨first, rest, nonempty, rfl, rfl⟩ := h
  cases first with
  | nil => contradiction
  | cons major first => rfl

/-- The second number is there too, or both numbers after the first were left out. -/
theorem Opens.minor_eq {one other : Core} (h : Opens one other) :
    one.minor = other.minor ∨ one.minor = 0 ∧ one.patch = 0 := by
  obtain ⟨first, rest, nonempty, rfl, rfl⟩ := h
  cases first with
  | nil => contradiction
  | cons major first =>
    cases first with
    | nil => exact .inr ⟨rfl, rfl⟩
    | cons minor first => exact .inl rfl

end Core

namespace Version

theorem opens_of_extends {requested version : String} {r v : Version}
    (extended : Extends requested version) (read : lenient? requested = some r)
    (read' : lenient? version = some v) : r.core.Opens v.core := by
  obtain ⟨more, parts⟩ := numericParts_of_extends extended read read'
  have numbered := numbered_of_lenient? read
  have numbered' := numbered_of_lenient? read'
  refine ⟨_, more.map digitsValue, ?_, numbered.core, ?_⟩
  · simp [numericParts, Text.pieces_ne_nil]
  · rw [numbered'.core, parts, List.map_append]

end Version

namespace Product

/-- Where support begins within a release, the release alone is below it. For every other product a
request is supported if a version is that extends it. -/
theorem contains_iff_of_opens {product : String} {rules : Rules} {one other : Core}
    (registered : rules? product = some rules) (opens : one.Opens other)
    (supported : rules.supported.contains other = true) :
    rules.supported.contains one = false ↔ product = "manage" ∧ one = ⟨2, 0, 0⟩ := by
  obtain ⟨side, floor⟩ := supported_floor _ (mem_registry registered)
  have major := opens.major_eq
  have minor := opens.minor_eq
  rw [← Bool.not_eq_true, Range.contains_iff side, Core.order_isLE_iff]
  rw [Range.contains_iff side, Core.order_isLE_iff] at supported
  cases one with
  | mk a b c =>
    simp only [Core.mk.injEq] at major minor ⊢
    split at floor
    · rename_i manage
      simp only at manage
      simp only [floor, manage, true_and] at supported ⊢
      omega
    · rename_i other
      simp only at other
      simp only [floor.1, floor.2, other, false_and, iff_false, not_not] at supported ⊢
      omega

/-- When a request has ended although a version that extends it has not. -/
theorem endOfLife_iff_of_extends {product requested version : String} {v : Version}
    (pinned : wantsLatest requested = false) (extended : Version.Extends requested version)
    (read : Version.lenient? version = some v) (kept : endOfLife product version = false) :
    endOfLife product requested = true ↔ product = "manage" ∧
      ∃ r, Version.lenient? requested = some r ∧ r.core = ⟨2, 0, 0⟩ := by
  have pinned' : wantsLatest version = false := by
    rw [Bool.eq_false_iff] at pinned ⊢
    exact fun latest => pinned (Version.wantsLatest_of_extends extended latest)
  unfold endOfLife at kept ⊢
  rw [if_neg (by simp [pinned']), read] at kept
  rw [if_neg (by simp [pinned])]
  cases registered : rules? product with
  | none =>
    have other : product ≠ "manage" := by
      rintro rfl
      cases registered
    simp [other]
  | some rules =>
    cases asked : Version.lenient? requested with
    | none => simp
    | some r =>
      simp only [registered, Bool.not_eq_false'] at kept
      have opens := Version.opens_of_extends extended asked read
      simpa using contains_iff_of_opens registered opens kept

end Product

namespace Gateway

variable {gateway : Gateway} {answers : Answers}

theorem outcome_checkEndOfLife_pinned {request : Request} (persona : gateway.persona = .commercial)
    (eol : request.eol = false) (pinned : wantsLatest request.version = false) :
    (gateway.checkEndOfLife request).outcome answers =
      if Product.endOfLife request.product request.version = true then .error (endOfLife request)
      else .ok () := by
  unfold checkEndOfLife
  simp only [persona, eol, pinned, reduceCtorEq, decide_false, Bool.or_self, Bool.false_eq_true,
    if_false]
  split <;> rfl

/-- A request that a supported version satisfies comes to the last such version, unless the gate
for ended versions takes the request itself for one. Of the requests that a readable version
satisfies that is so for the release alone in which the support of manage begins. -/
theorem resolve_supported_request {supply : Supply} {request : Request} {versions : List String}
    {version : String} (persona : gateway.persona = .commercial) (eol : request.eol = false)
    (pinned : wantsLatest request.version = false)
    (listed : (supply.versions request).outcome answers = .ok versions)
    (shown : version ∈ gateway.visible request versions)
    (extended : Version.Extends request.version version) :
    ∃ last, Version.LastExtending request.version (gateway.visible request versions) last ∧
      (gateway.resolve supply request).outcome answers =
        (if Product.endOfLife request.product request.version = true then
          .error (endOfLife request) else .ok last) ∧
      ((Version.lenient? version).isSome = true →
        (Product.endOfLife request.product request.version = true ↔ request.product = "manage" ∧
          ∃ r, Version.lenient? request.version = some r ∧ r.core = ⟨2, 0, 0⟩)) := by
  obtain ⟨last, lastly, chosen⟩ := Version.choose_of_extends pinned shown extended
  have picked : gateway.picked request versions = .ok last := by
    have nonempty : versions ≠ [] := List.ne_nil_of_mem (mem_of_visible shown)
    unfold picked
    rw [if_neg (by simpa using nonempty), if_neg (by simpa using List.ne_nil_of_mem shown)]
    exact chosen
  refine ⟨last, lastly, ?_, ?_⟩
  · rw [outcome_resolve, outcome_checkEndOfLife_pinned persona eol pinned, listed]
    split
    · rfl
    · exact picked
  · intro readable
    obtain ⟨v, read⟩ := Option.isSome_iff_exists.mp readable
    exact Product.endOfLife_iff_of_extends pinned extended read
      (visible_supported shown persona eol)

/-- A remote catalog that lists three releases of every product. -/
def threeReleases : Answers
  | .versions .. => .ok ["2.4.9", "2.5.1", "2.5.30"]
  | _ => .error .noCandidates

def manage (version : String) : Request := { channel := .stable, product := "manage", version }

/-- With its second number the request passes the gate. -/
theorem resolve_manage_minor :
    Version.LastExtending "2.5"
        ((plain .commercial).visible (manage "2.5") ["2.4.9", "2.5.1", "2.5.30"]) "2.5.30" ∧
      Product.endOfLife "manage" "2.5" ≠ true ∧
      ((plain .commercial).resolve Supply.Remote.supply (manage "2.5")).outcome threeReleases =
        .ok "2.5.30" := by
  have listed : (Supply.Remote.supply.versions (manage "2.5")).outcome threeReleases =
    .ok ["2.4.9", "2.5.1", "2.5.30"] := rfl
  have shown : "2.5.1" ∈ (plain .commercial).visible (manage "2.5") ["2.4.9", "2.5.1", "2.5.30"] :=
    by decide
  have extended : Version.Extends (manage "2.5").version "2.5.1" := .inr ⟨"1", rfl⟩
  obtain ⟨last, lastly, resolves, ended⟩ :=
    resolve_supported_request rfl rfl rfl listed shown extended
  have kept : Product.endOfLife "manage" "2.5" ≠ true := by
    intro refused
    obtain ⟨-, r, read, core⟩ := (ended rfl).mp refused
    cases read
    cases core
  obtain rfl : "2.5.30" = last := Except.ok.inj (resolves.trans (if_neg kept))
  exact ⟨lastly, kept, rfl⟩

/-- The gate refuses a release of which supported versions are listed. -/
theorem manage_release_refused :
    (Supply.Remote.versions (manage "2")).outcome threeReleases =
        .ok ["2.4.9", "2.5.1", "2.5.30"] ∧
      "2.5.30" ∈ (plain .commercial).visible (manage "2") ["2.4.9", "2.5.1", "2.5.30"] ∧
      Version.Extends "2" "2.5.30" ∧
      ((plain .commercial).resolve ((plain .commercial).supply (manage "2")) (manage "2")).outcome
          threeReleases =
        .error (.validation "v" "manage version 2 is EOL, must be >= 2.5.0") := by
  refine ⟨rfl, ?_, .inr ⟨"5.30", rfl⟩, rfl⟩
  decide

end Gateway

end ReleaseGate
