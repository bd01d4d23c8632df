import ReleaseGate.Proofs.Addressed
import ReleaseGate.Supply.Remote

/-! Where in a url a license comes to stand: at the end of the query, or at the end of the fragment
of a url that has one. -/

namespace ReleaseGate.Supply.Remote

open Service.Catalog (Location)

variable {url license : String}

/-- What the package host is to find in the query. -/
def licenseField (license : String) : String := "licenseId=" ++ Text.Percent.encode license

/-- What the license is joined to a url with. -/
def joint (url : String) : String := if '?' ∈ url.toList then "&" else "?"

/-- A query with one more field at its end. -/
def extended (query : Option String) (field : String) : String :=
  match query with
  | none => field
  | some query => query ++ "&" ++ field

/-- The fields of a query, which has none if it is not there. -/
def fields : Option String → List (List Char)
  | none => []
  | some query => Text.pieces '&' query.toList

theorem withLicense_eq (filled : license ≠ "") (url : String) :
    withLicense url license = url ++ joint url ++ licenseField license := by
  unfold withLicense joint licenseField
  rw [if_neg filled, String.append_assoc]
  simp

/-- Nothing in the field parts a url or a query. -/
theorem not_mem_licenseField {c : Char} (mark : c ∈ Text.Percent.separators) (other : c ≠ '=') :
    c ∉ (licenseField license).toList := by
  have name : c ∉ "licenseId=".toList := by
    have apart : (Text.Percent.separators.all fun c =>
      c == '=' || !"licenseId=".toList.contains c) = true := by decide
    simpa [other] using List.all_eq_true.mp apart c mark
  have value : c ∉ (Text.Percent.encode license).toList :=
    fun there => Text.Percent.not_separator_of_mem_encode there mark
  unfold licenseField
  rw [String.toList_append, List.mem_append, not_or]
  exact ⟨name, value⟩

theorem pairOf?_licenseField (license : String) :
    Request.pairOf? (licenseField license).toList = some ("licenseId", license) := by
  have field : (licenseField license).toList = Request.pairText ("licenseId", license) := by
    simp [licenseField, Request.pairText]
  rw [field]
  have key : '=' ∉ "licenseId".toList := by decide
  exact Request.pairOf?_pairText key

theorem fields_extended (query : Option String) (license : String) :
    fields (some (extended query (licenseField license))) =
      fields query ++ [(licenseField license).toList] := by
  have alone : Text.pieces '&' (licenseField license).toList = [(licenseField license).toList] :=
    Text.pieces_eq_self (not_mem_licenseField (by decide) (by decide))
  cases query with
  | none => exact alone
  | some query =>
    simp only [extended, fields, String.toList_append, List.append_assoc]
    exact (Text.pieces_append_cons _ _).trans (congrArg _ alone)

theorem toList_withLicense (filled : license ≠ "") (url : String) :
    (withLicense url license).toList =
      url.toList ++ ((joint url).toList ++ (licenseField license).toList) := by
  rw [withLicense_eq filled, String.toList_append, String.toList_append, List.append_assoc]

/-- Without a fragment the license is the last field of the query. -/
theorem ofText_withLicense_of_plain (filled : license ≠ "")
    (plain : (Location.ofText url.toList).fragment = none) :
    Location.ofText (withLicense url license).toList =
      { Location.ofText url.toList with
        query := some (extended (Location.ofText url.toList).query (licenseField license)) } := by
  have unhashed : '#' ∉ (joint url).toList ++ (licenseField license).toList := by
    have joined : '#' ∉ (joint url).toList := by
      unfold joint
      split <;> decide
    rw [List.mem_append, not_or]
    exact ⟨joined, not_mem_licenseField (by decide) (by decide)⟩
  obtain ⟨whole, uncut⟩ | ⟨front, rest, -, -, split⟩ := Text.cut_spec '#' url.toList
  · have whole' : '#' ∉ url.toList ++ ((joint url).toList ++ (licenseField license).toList) := by
      rw [List.mem_append, not_or]
      exact ⟨whole, unhashed⟩
    unfold Location.ofText
    rw [toList_withLicense filled, uncut, Text.cut_eq_self whole']
    obtain ⟨unasked, path⟩ | ⟨front, rest, before, asked, split⟩ := Text.cut_spec '?' url.toList
    · have joined : (joint url).toList = ['?'] := by
        rw [joint, if_neg unasked]
        rfl
      rw [path, joined, List.singleton_append, Text.cut_append unasked]
      simp [extended]
    · have joined : (joint url).toList = ['&'] := by
        rw [joint, if_pos (by simp [asked])]
        rfl
      rw [split, joined, asked, List.append_assoc, List.cons_append, Text.cut_append before]
      simp [extended, String.append_assoc]
  · simp [Location.ofText, split] at plain

/-- What follows a url with a fragment belongs to the fragment. -/
theorem ofText_withLicense_of_fragment (filled : license ≠ "") {fragment : String}
    (hashed : (Location.ofText url.toList).fragment = some fragment) :
    Location.ofText (withLicense url license).toList =
      { Location.ofText url.toList with
        fragment := some (fragment ++ joint url ++ licenseField license) } := by
  unfold Location.ofText at hashed ⊢
  obtain ⟨whole, uncut⟩ | ⟨front, rest, before, whole, split⟩ := Text.cut_spec '#' url.toList
  · simp [uncut] at hashed
  · have fragment : fragment = String.ofList rest := by simpa [split] using hashed.symm
    rw [toList_withLicense filled, split, fragment]
    rw [show url.toList ++ ((joint url).toList ++ (licenseField license).toList) =
      front ++ '#' :: (rest ++ ((joint url).toList ++ (licenseField license).toList)) by
        rw [whole, List.append_assoc, List.cons_append], Text.cut_append before]
    simp [String.append_assoc]

/-- The license is the last field of the query exactly when the url has no fragment; all else stays
as it is, and the license is read back from its field. In a url with a fragment the license goes
to the end of the fragment, and the query stays without it. -/
theorem license_in_query_iff (filled : license ≠ "") (url : String) :
    let bare := Location.ofText url.toList
    let licensed := Location.ofText (withLicense url license).toList
    let query := extended bare.query (licenseField license)
    (licensed = { bare with query := some query } ↔ bare.fragment = none) ∧
    (∀ fragment, bare.fragment = some fragment →
      licensed = { bare with fragment := some (fragment ++ joint url ++ licenseField license) }) ∧
    fields (some query) = fields bare.query ++ [(licenseField license).toList] ∧
    Request.pairOf? (licenseField license).toList = some ("licenseId", license) := by
  refine ⟨⟨?_, ofText_withLicense_of_plain filled⟩,
    fun _ => ofText_withLicense_of_fragment filled, fields_extended _ license,
    pairOf?_licenseField license⟩
  intro same
  cases hashed : (Location.ofText url.toList).fragment with
  | none => rfl
  | some fragment =>
    rw [ofText_withLicense_of_fragment filled hashed] at same
    have kept : some (fragment ++ joint url ++ licenseField license) =
        (Location.ofText url.toList).fragment := congrArg Location.fragment same
    rw [hashed, Option.some_inj, String.append_assoc] at kept
    have longer := congrArg (fun text : String => text.toList.length) kept
    simp [licenseField] at longer

/-- A license that has to be escaped, behind a query. -/
theorem license_joins_query : "free 42" ≠ "" ∧
    Location.ofText (withLicense "https://up/f.deb?arch=x86_64" "free 42").toList =
      ⟨["https:", "", "up", "f.deb"], some "arch=x86_64&licenseId=free%2042", none⟩ := by
  have given : "free 42" ≠ "" := by decide
  have plain : (Location.ofText "https://up/f.deb?arch=x86_64".toList).fragment = none := by
    decide +kernel
  have licensed := (license_in_query_iff given "https://up/f.deb?arch=x86_64").1.mpr plain
  refine ⟨given, licensed.trans ?_⟩
  decide +kernel

/-- Behind a fragment the license is not in the query. -/
theorem fragment_takes_license :
    Location.ofText (withLicense "https://up/chef.deb#top" "free-1").toList =
      ⟨["https:", "", "up", "chef.deb"], none, some "top?licenseId=free-1"⟩ := by
  decide +kernel

end ReleaseGate.Supply.Remote
