import Mathlib.Data.List.Forall2
import ReleaseGate.Service.Portal

/-! The headers of an artifact while they are set one after the other: names count without regard
to case, and of what is set under one name the last stays, where it was set. -/

namespace ReleaseGate

namespace Text

/-- The same character, or one letter of ASCII in its two cases. -/
def SameLetter (c d : Char) : Prop :=
  c = d ∨ (c.isUpper = true ∧ d.toNat = c.toNat + 32) ∨ (d.isUpper = true ∧ c.toNat = d.toNat + 32)

/-- The texts differ at most in the case of ASCII letters. -/
def SameButCase (a b : String) : Prop := List.Forall₂ SameLetter a.toList b.toList

/-- No character is an ASCII capital. -/
def Small (text : String) : Prop := ∀ c ∈ text.toList, c.isUpper = false

theorem isUpper_iff {c : Char} : c.isUpper = true ↔ 65 ≤ c.toNat ∧ c.toNat ≤ 90 := by
  unfold Char.isUpper
  rw [decide_eq_true_iff]
  exact Iff.rfl

theorem toNat_toLower (c : Char) :
    c.toLower.toNat = if c.isUpper then c.toNat + 32 else c.toNat := by
  have capital : (c.val ≥ 'A'.val ∧ c.val ≤ 'Z'.val) ↔ c.isUpper = true := decide_eq_true_iff.symm
  unfold Char.toLower
  by_cases upper : c.isUpper = true
  · have small : c.val.toNat ≤ 90 := (isUpper_iff.mp upper).2
    rw [dif_pos (capital.mpr upper), if_pos upper]
    change (c.val.toNat + 32) % 4294967296 = c.val.toNat + 32
    omega
  · rw [dif_neg (capital.not.mpr upper), if_neg upper]

theorem toLower_eq_iff {c d : Char} : c.toLower = d.toLower ↔ SameLetter c d := by
  unfold SameLetter
  rw [← Char.toNat_inj, toNat_toLower, toNat_toLower, ← Char.toNat_inj]
  have first := isUpper_iff (c := c)
  have second := isUpper_iff (c := d)
  split <;> split <;> simp_all <;> omega

theorem lowerAscii_eq_iff {a b : String} : lowerAscii a = lowerAscii b ↔ SameButCase a b := by
  unfold lowerAscii SameButCase
  rw [String.ofList_inj, ← List.forall₂_eq_eq_eq, List.forall₂_map_left_iff,
    List.forall₂_map_right_iff]
  simp only [toLower_eq_iff]

instance : DecidableRel SameButCase := fun _ _ => decidable_of_iff _ lowerAscii_eq_iff

theorem small_lowerAscii (text : String) : Small (lowerAscii text) := by
  intro c inside
  unfold lowerAscii at inside
  rw [String.toList_ofList, List.mem_map] at inside
  obtain ⟨d, -, rfl⟩ := inside
  rw [Bool.eq_false_iff, ne_eq, isUpper_iff, toNat_toLower]
  split
  · rename_i upper
    have range := isUpper_iff.mp upper
    omega
  · rename_i lower
    exact isUpper_iff.not.mp lower

theorem lowerAscii_eq_self {text : String} (small : Small text) : lowerAscii text = text := by
  have same : text.toList.map Char.toLower = text.toList := by
    conv_rhs => rw [← List.map_id text.toList]
    refine List.map_congr_left fun c inside => ?_
    rw [← Char.toNat_inj, toNat_toLower, small c inside]
    rfl
  rw [lowerAscii, same, String.ofList_toList]

end Text

namespace Artifact

/-- Setting a header, or setting it if the artifact has nothing to say under its name. -/
inductive Edit where
  | set (name value : String)
  | default (name value : String)
  deriving DecidableEq, Repr

def edited (artifact : Artifact) : Edit → Artifact
  | .set name value => artifact.setHeader name value
  | .default name value => artifact.defaultHeader name value

def editedBy (artifact : Artifact) (edits : List Edit) : Artifact := edits.foldl edited artifact

/-- An artifact as it begins: without headers, or with those that the portal sent. -/
inductive Begun : Artifact → Prop
  | bare (status : Nat) (body : Body) : Begun { status, body }
  | received (reply : Http.Reply) : Begun (Service.Portal.artifact reply)

/-- No header has a capital in its name. -/
def Lowered (artifact : Artifact) : Prop := ∀ header ∈ artifact.headers, Text.Small header.1

/-- The headers of a name. -/
def under (artifact : Artifact) (name : String) : List (String × String) :=
  artifact.headers.filter fun header => Text.SameButCase name header.1

/-- The headers of all other names. -/
def beside (artifact : Artifact) (name : String) : List (String × String) :=
  artifact.headers.filter fun header => ¬ Text.SameButCase name header.1

/-- The artifact says nothing under a name. -/
def Silent (artifact : Artifact) (name : String) : Prop :=
  artifact.header? name = none ∨ artifact.header? name = some ""

instance (artifact : Artifact) (name : String) : Decidable (artifact.Silent name) :=
  inferInstanceAs (Decidable (_ ∨ _))

/-- A header was set: it is the only one of its name and comes last, and all else is as before. -/
structure Put (before after : Artifact) (name value : String) : Prop where
  alone : after.under name = [(Text.lowerAscii name, value)]
  last : after.headers.getLast? = some (Text.lowerAscii name, value)
  others : after.beside name = before.beside name
  status : after.status = before.status
  body : after.body = before.body

/-- What an edit makes of an artifact. -/
inductive Edit.Makes : Edit → Artifact → Artifact → Prop
  | set {before after : Artifact} {name value : String} :
      Put before after name value → Makes (.set name value) before after
  | filled {before after : Artifact} {name value : String} :
      before.Silent name → Put before after name value → Makes (.default name value) before after
  | kept {artifact : Artifact} {name : String} (value : String) :
      ¬ artifact.Silent name → Makes (.default name value) artifact artifact

/-- What an edit puts among the headers, if it does. -/
def setting? (artifact : Artifact) : Edit → Option (String × String)
  | .set name value => some (Text.lowerAscii name, value)
  | .default name value =>
    if artifact.Silent name then some (Text.lowerAscii name, value) else none

/-- The headers of one name give way to one at the end. -/
def put (artifact : Artifact) (setting : String × String) : Artifact :=
  { artifact with headers := artifact.headers.filter (·.1 ≠ setting.1) ++ [setting] }

/-- What edits put among the headers, in order. -/
def settings (artifact : Artifact) : List Edit → List (String × String)
  | [] => []
  | edit :: rest => (artifact.setting? edit).toList ++ (artifact.edited edit).settings rest

/-- Of the headers of one name the last. -/
def lastOfEach : List (String × String) → List (String × String)
  | [] => []
  | header :: rest =>
    if header.1 ∈ rest.map (·.1) then lastOfEach rest else header :: lastOfEach rest

variable {artifact : Artifact}

theorem defaultHeader_eq (artifact : Artifact) (name value : String) :
    artifact.defaultHeader name value =
      if artifact.Silent name then artifact.setHeader name value else artifact := by
  have silent : artifact.Silent name ↔ (artifact.header? name).getD "" = "" := by
    unfold Silent
    cases artifact.header? name <;> simp
  unfold defaultHeader
  simp only [silent]

/-- An edit that puts nothing changes nothing. -/
theorem edited_eq (artifact : Artifact) (edit : Edit) :
    artifact.edited edit = (artifact.setting? edit).elim artifact artifact.put := by
  cases edit with
  | set name value => rfl
  | default name value =>
    change artifact.defaultHeader name value = _
    rw [defaultHeader_eq, setting?]
    split <;> rfl

theorem small_of_setting? {edit : Edit} {setting : String × String}
    (h : artifact.setting? edit = some setting) : Text.Small setting.1 := by
  cases edit with
  | set name value =>
    cases h
    exact Text.small_lowerAscii name
  | default name value =>
    rw [setting?, Option.ite_none_right_eq_some] at h
    obtain ⟨-, ⟨⟩⟩ := h
    exact Text.small_lowerAscii name

theorem Lowered.edited (lowered : artifact.Lowered) (edit : Edit) :
    (artifact.edited edit).Lowered := by
  rw [edited_eq]
  cases found : artifact.setting? edit with
  | none => exact lowered
  | some setting =>
    intro header inside
    obtain old | new := List.mem_append.mp inside
    · exact lowered header (List.mem_of_mem_filter old)
    · rw [List.mem_singleton.mp new]
      exact small_of_setting? found

theorem Lowered.editedBy (lowered : artifact.Lowered) (edits : List Edit) :
    (artifact.editedBy edits).Lowered := by
  induction edits generalizing artifact with
  | nil => exact lowered
  | cons edit rest ih => exact ih (lowered.edited edit)

theorem mem_grouped {header : String × String} {headers : List (String × String)}
    (h : header ∈ Service.Portal.grouped headers) : header ∈ headers := by
  induction headers with
  | nil => exact h
  | cons first rest ih =>
    rw [Service.Portal.grouped, List.cons_append, List.mem_cons, List.mem_append] at h
    obtain rfl | same | other := h
    · exact List.mem_cons_self
    · exact List.mem_cons_of_mem _ (ih (List.mem_of_mem_filter same))
    · exact List.mem_cons_of_mem _ (ih (List.mem_of_mem_filter other))

theorem Begun.lowered (begun : artifact.Begun) : artifact.Lowered := by
  cases begun with
  | bare status body => exact List.forall_mem_nil _
  | received reply =>
    intro header inside
    have sent := mem_grouped (List.mem_of_mem_filter inside)
    obtain ⟨⟨name, value⟩, -, rfl⟩ := List.mem_map.mp sent
    exact Text.small_lowerAscii name

/-- Where no name has a capital, the names that are the same but for their case are equal. -/
theorem Lowered.sameButCase_iff (lowered : artifact.Lowered) {header : String × String}
    (inside : header ∈ artifact.headers) (name : String) :
    Text.SameButCase name header.1 ↔ header.1 = Text.lowerAscii name := by
  rw [← Text.lowerAscii_eq_iff, Text.lowerAscii_eq_self (lowered header inside), eq_comm]

theorem Lowered.under_eq (lowered : artifact.Lowered) (name : String) :
    artifact.under name = artifact.headers.filter (·.1 = Text.lowerAscii name) :=
  List.filter_congr fun _ inside => by simp only [lowered.sameButCase_iff inside]

theorem Lowered.beside_eq (lowered : artifact.Lowered) (name : String) :
    artifact.beside name = artifact.headers.filter (·.1 ≠ Text.lowerAscii name) :=
  List.filter_congr fun _ inside => by simp only [lowered.sameButCase_iff inside, ne_eq]

theorem lookup_eq_head?_filter (headers : List (String × String)) (name : String) :
    headers.lookup name = (headers.filter (·.1 = name)).head?.map (·.2) := by
  induction headers with
  | nil => rfl
  | cons header rest ih =>
    obtain ⟨key, value⟩ := header
    rw [Dict.lookup_cons, List.filter_cons, ih]
    by_cases same : name = key
    · simp [same]
    · simp [same, Ne.symm same]

/-- A header is looked for under its name, and the first of that name is found. -/
theorem Lowered.header?_eq (lowered : artifact.Lowered) (name : String) :
    artifact.header? name = (artifact.under name).head?.map (·.2) := by
  rw [lowered.under_eq]
  exact lookup_eq_head?_filter _ _

theorem Lowered.put_setHeader (lowered : artifact.Lowered) (name value : String) :
    Put artifact (artifact.setHeader name value) name value := by
  have after : (artifact.setHeader name value).Lowered := lowered.edited (.set name value)
  constructor
  · rw [after.under_eq, setHeader, List.filter_append, List.filter_filter]
    simp
  · exact List.getLast?_concat
  · rw [after.beside_eq, lowered.beside_eq, setHeader, List.filter_append, List.filter_filter]
    simp
  · rfl
  · rfl

theorem Lowered.makes (lowered : artifact.Lowered) (edit : Edit) :
    edit.Makes artifact (artifact.edited edit) := by
  cases edit with
  | set name value => exact .set (lowered.put_setHeader name value)
  | default name value =>
    change Edit.Makes _ artifact (artifact.defaultHeader name value)
    rw [defaultHeader_eq]
    by_cases silent : artifact.Silent name
    · rw [if_pos silent]
      exact .filled silent (lowered.put_setHeader name value)
    · rw [if_neg silent]
      exact .kept value silent

theorem headers_put (artifact : Artifact) (setting : String × String)
    (later : List (String × String)) :
    (artifact.put setting).headers.filter (·.1 ∉ later.map (·.1)) ++ lastOfEach later =
      artifact.headers.filter (·.1 ∉ (setting :: later).map (·.1)) ++
        lastOfEach (setting :: later) := by
  have untouched (header : String × String) : header.1 ∉ (setting :: later).map (·.1) ↔
      header.1 ∉ later.map (·.1) ∧ header.1 ≠ setting.1 := by
    rw [List.map_cons, List.mem_cons, not_or, and_comm]
  simp only [untouched, Bool.decide_and]
  rw [put, List.filter_append, List.filter_filter, lastOfEach, List.append_assoc]
  congr 1
  by_cases again : setting.1 ∈ later.map (·.1)
  · rw [if_pos again, List.filter_cons_of_neg (by simpa using again)]
    rfl
  · rw [if_neg again, List.filter_cons_of_pos (by simpa using again)]
    rfl

/-- After all edits there are the headers of names under which nothing was put, and then, of what
was put under each other name, the last. -/
theorem headers_editedBy (artifact : Artifact) (edits : List Edit) :
    (artifact.editedBy edits).headers =
      artifact.headers.filter (·.1 ∉ (artifact.settings edits).map (·.1)) ++
        lastOfEach (artifact.settings edits) := by
  induction edits generalizing artifact with
  | nil => simp [editedBy, settings, lastOfEach]
  | cons edit rest ih =>
    change ((artifact.edited edit).editedBy rest).headers = _
    rw [ih, settings, edited_eq]
    cases artifact.setting? edit with
    | none => rfl
    | some setting => exact headers_put artifact setting _

/-- However the headers of an artifact are edited, no name gets a capital, every edit makes of the
artifact what it should, a header is found in whatever case its name is written, and of what was
put under a name the last is there in the end, behind the headers of names that were let alone. -/
theorem edited_headers {start : Artifact} (begun : start.Begun) (edits : List Edit) :
    (start.editedBy edits).Lowered ∧
    (∀ edit : Edit, edit.Makes (start.editedBy edits) (start.editedBy (edits ++ [edit]))) ∧
    (∀ name, (start.editedBy edits).header? name =
      ((start.editedBy edits).under name).head?.map (·.2)) ∧
    (∀ name other, Text.SameButCase name other →
      (start.editedBy edits).header? name = (start.editedBy edits).header? other) ∧
    (start.editedBy edits).headers =
      start.headers.filter (·.1 ∉ (start.settings edits).map (·.1)) ++
        lastOfEach (start.settings edits) := by
  have lowered := begun.lowered.editedBy edits
  refine ⟨lowered, fun edit => ?_, lowered.header?_eq, fun name other same => ?_,
    headers_editedBy start edits⟩
  · have next : start.editedBy (edits ++ [edit]) = (start.editedBy edits).edited edit :=
      List.foldl_concat ..
    rw [next]
    exact lowered.makes edit
  · unfold header?
    rw [Text.lowerAscii_eq_iff.mpr same]

/-- A reply that has one header twice, in two cases. -/
def twoParts : Http.Reply where
  status := 200
  headers := [("ETag", "a"), ("X-Part", "1"), ("x-part", "2")]
  body := .empty

theorem two_parts_edited :
    let start := Service.Portal.artifact twoParts
    let edits : List Edit := [.default "X-PART" "3", .set "etag" "", .default "ETag" "b"]
    start.Begun ∧ (start.editedBy edits).header? "X-Part" = some "1" ∧
      (start.editedBy edits).headers = [("x-part", "1"), ("x-part", "2"), ("etag", "b")] := by
  intro start edits
  have begun : start.Begun := .received twoParts
  obtain ⟨-, -, -, cases, headers⟩ := edited_headers begun edits
  have settings : start.settings edits = [("etag", ""), ("etag", "b")] := by decide +kernel
  refine ⟨begun, ?_, ?_⟩
  · rw [cases "X-Part" "x-part" (by decide +kernel)]
    decide +kernel
  · rw [headers, settings]
    decide +kernel

end Artifact

end ReleaseGate
