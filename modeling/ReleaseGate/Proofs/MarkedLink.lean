import ReleaseGate.Proofs.Link
import ReleaseGate.Proofs.Mark
import ReleaseGate.Proofs.Operation

/-! What is asked for when the metadata mark is put behind a download link. -/

namespace ReleaseGate.Request

variable {request : Request}

theorem encode_metadataMark : Text.Percent.encode metadataMark = metadataMark := by decide +kernel

/-- A mark behind a query is a mark behind its last value. -/
theorem query_append_mark (pairs : List (String × String)) (key value : String) :
    Text.Percent.query (pairs ++ [(key, value ++ metadataMark)]) =
      Text.Percent.query (pairs ++ [(key, value)]) ++ metadataMark := by
  have last : pairText (key, value ++ metadataMark) =
      pairText (key, value) ++ metadataMark.toList := by
    simp [pairText, Text.Percent.encode_append, encode_metadataMark]
  rw [← String.toList_inj, String.toList_append, toList_query, toList_query, List.map_append,
    List.map_append, List.map_singleton, List.map_singleton, last, Text.intercalate_append_last]

/-- The request with the mark behind the last of the parts that a link of it names. -/
def markedLast (request : Request) : Request :=
  if request.packageManager = "" then
    { request with architecture := request.architecture ++ metadataMark }
  else { request with packageManager := request.packageManager ++ metadataMark }

theorem append_mark_ne_empty (text : String) : text ++ metadataMark ≠ "" := by
  rw [Ne, ← String.toList_inj, String.toList_append]
  simp [metadataMark]

/-- Without a license and the word for what has ended, the last pair of a link's query is the
package manager or, if there is none, the architecture. -/
theorem queryPairs_markedLast (eol : request.eol = false) (free : request.licenseId = "")
    (architecture : request.architecture ≠ "") :
    ∃ pairs key value, request.queryPairs = pairs ++ [(key, value)] ∧
      request.markedLast.queryPairs = pairs ++ [(key, value ++ metadataMark)] := by
  obtain ⟨leading, split⟩ : ∃ leading, ∀ architecture manager : String,
      [("v", request.version), ("p", request.platform), ("pv", request.platformVersion),
          ("m", architecture), ("pm", manager)].filter (·.2 ≠ "") =
        leading ++ [("m", architecture), ("pm", manager)].filter (·.2 ≠ "") := by
    refine ⟨[("v", request.version), ("p", request.platform),
      ("pv", request.platformVersion)].filter (·.2 ≠ ""), fun architecture manager => ?_⟩
    rw [← List.filter_append]
    rfl
  have marked := append_mark_ne_empty
  unfold markedLast queryPairs
  by_cases manager : request.packageManager = ""
  · refine ⟨leading, "m", request.architecture, ?_, ?_⟩
    · rw [split]
      simp [eol, free, manager, architecture]
    · rw [if_pos manager, split]
      simp [eol, free, manager, marked]
  · refine ⟨leading ++ [("m", request.architecture)], "pm", request.packageManager, ?_, ?_⟩
    · rw [split]
      simp [eol, free, manager, architecture]
    · rw [if_neg manager, split]
      simp [eol, free, architecture, marked]

/-- A mark behind a link is a mark behind the last part that it names. -/
theorem link_markedLast (eol : request.eol = false) (free : request.licenseId = "")
    (architecture : request.architecture ≠ "") (base : String) :
    request.markedLast.link base = request.link base ++ metadataMark := by
  obtain ⟨pairs, key, value, named, marked⟩ := queryPairs_markedLast eol free architecture
  have path : request.markedLast.pathText = request.pathText := by
    unfold markedLast
    split <;> rfl
  have filled (value : String) : pairs ++ [(key, value)] ≠ [] := by simp
  rw [← String.toList_inj, String.toList_append, toList_link, toList_link, path, named, marked,
    if_neg (filled _), if_neg (filled _), query_append_mark]
  simp

/-- A link with the mark behind it is read as the request with the mark behind its last part. -/
theorem ofLink?_append_mark (eol : request.eol = false) (free : request.licenseId = "")
    (architecture : request.architecture ≠ "") (base : String) :
    ofLink? base (request.link base ++ metadataMark) = some request.markedLast := by
  rw [← link_markedLast eol free architecture, ofLink?_link]

/-- The request comes back when the mark went behind the architecture and is taken from its end. -/
theorem takeMetadataMark?_markedLast_iff : request.markedLast.takeMetadataMark? = some request ↔
    request.packageManager = "" ∧ MarksLast request.architecture := by
  unfold markedLast
  by_cases manager : request.packageManager = ""
  · have taken : takeMetadataMark?
          { request with architecture := request.architecture ++ metadataMark } =
        (unmarked? (request.architecture ++ metadataMark)).map fun architecture =>
          { request with architecture } :=
      takeMetadataMark?_of_architecture (marked_append_mark request.architecture)
    rw [if_pos manager, taken, ← unmarked?_append_mark, and_iff_right manager]
    cases unmarked? (request.architecture ++ metadataMark) with
    | none => simp
    | some architecture =>
      cases request
      simp
  · rw [if_neg manager]
    simp only [manager, false_and, iff_false]
    intro taken
    obtain ⟨_, _, _, _, same⟩ := takeMetadataMark?_changes taken
    have longer : request.packageManager = request.packageManager ++ metadataMark :=
      congrArg packageManager same
    rw [← String.toList_inj, String.toList_append, List.self_eq_append_right] at longer
    exact absurd longer (by decide)

/-- Nothing is taken when the mark went behind the package manager, where it is not looked for. -/
theorem takeMetadataMark?_markedLast_eq_none_iff : request.markedLast.takeMetadataMark? = none ↔
    request.packageManager ≠ "" ∧
      ∀ text ∈ [request.architecture, request.platform, request.platformVersion, request.version],
        ¬ Marked text := by
  rw [takeMetadataMark?_eq_none_iff]
  unfold markedLast
  by_cases manager : request.packageManager = ""
  · simp [manager, marked_append_mark]
  · rw [if_neg manager]
    simp [manager]

end ReleaseGate.Request

namespace ReleaseGate.Gateway

open Request (MarksLast Marked metadataMark ofLink?)

variable {gateway : Gateway} {answers : Answers} {base : String} {request unmarked : Request}

theorem outcome_download_marked (taken : request.takeMetadataMark? = some unmarked) :
    (gateway.download base request).outcome answers =
      ((gateway.metadata base unmarked).outcome answers).map .metadata := by
  unfold download metadata reported
  rw [taken, Action.outcome_noting, Action.outcome_noting, Action.outcome_bind]
  cases (gateway.record base unmarked).outcome answers <;> rfl

theorem outcome_download_unmarked (untaken : request.takeMetadataMark? = none) :
    (gateway.download base request).outcome answers =
      (gateway.artifact request).outcome answers := by
  unfold download reported
  rw [untaken, Action.outcome_noting]

/-- A link with the metadata mark behind it asks for the metadata of its own request exactly when
the request names no package manager and nothing but marks follows the first mark of its
architecture. With a package manager, whose mark is not looked for, it asks for the artifact of a
package manager that is not there, unless another part has a mark. -/
theorem marked_link_iff (eol : request.eol = false) (free : request.licenseId = "")
    (architecture : request.architecture ≠ "") (base : String) :
    ∃ follow, ofLink? base (request.link base ++ metadataMark) = some follow ∧
      (follow.takeMetadataMark? = some request ↔
        request.packageManager = "" ∧ MarksLast request.architecture) ∧
      (follow.takeMetadataMark? = none ↔ request.packageManager ≠ "" ∧
        ∀ text ∈ [request.architecture, request.platform, request.platformVersion,
          request.version], ¬ Marked text) ∧
      (follow.takeMetadataMark? = some request → ∀ gateway answers,
        (download gateway base follow).outcome answers =
          ((metadata gateway base request).outcome answers).map .metadata) ∧
      (follow.takeMetadataMark? = none → ∀ gateway answers,
        (download gateway base follow).outcome answers =
          (artifact gateway follow).outcome answers) := by
  refine ⟨request.markedLast, Request.ofLink?_append_mark eol free architecture base,
    Request.takeMetadataMark?_markedLast_iff, Request.takeMetadataMark?_markedLast_eq_none_iff, ?_,
    ?_⟩
  · intro taken gateway answers
    exact outcome_download_marked taken
  · intro untaken gateway answers
    exact outcome_download_unmarked untaken

/-- What a link of a listing by platform version says. -/
def inspecOnEl : Request where
  channel := .current
  product := "inspec"
  version := "5.22.3"
  platform := "el"
  platformVersion := "8"
  architecture := "x86_64.metadata.json"

/-- One mark more behind an architecture that ends in one is taken again. -/
theorem marked_link_of_inspec : ∃ follow,
    ofLink? "http://gate" (inspecOnEl.link "http://gate" ++ metadataMark) = some follow ∧
      follow.takeMetadataMark? = some inspecOnEl ∧
      ∀ gateway answers, (download gateway "http://gate" follow).outcome answers =
        ((metadata gateway "http://gate" inspecOnEl).outcome answers).map .metadata := by
  have eol : inspecOnEl.eol = false := rfl
  obtain ⟨follow, followed, taken, -, described, -⟩ :=
    marked_link_iff eol rfl (by decide) "http://gate"
  have last : MarksLast inspecOnEl.architecture := by decide
  have whole := taken.mpr ⟨rfl, last⟩
  exact ⟨follow, followed, whole, described whole⟩

/-- What a link of a listing by package manager says. -/
def iceForRpm : Request where
  channel := .stable
  product := "chef-ice"
  version := "19.1.0"
  platform := "linux"
  architecture := "x86_64"
  packageManager := "rpm"

/-- The link of a package for a package manager, with the mark behind it, asks for an artifact. -/
theorem marked_rpm_link_unseen : ∃ follow,
    ofLink? "" (iceForRpm.link "" ++ metadataMark) = some follow ∧
      follow.takeMetadataMark? = none ∧ follow.packageManager = "rpm.metadata.json" := by
  refine ⟨_, Request.ofLink?_append_mark rfl rfl (by decide) "", ?_, rfl⟩
  decide

end ReleaseGate.Gateway
