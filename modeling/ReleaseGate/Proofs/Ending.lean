import ReleaseGate.Proofs.Mark

/-! A metadata mark is taken wherever it stands in a part of a request. Where it should be taken
from the end of a part alone, that comes to the same only if nothing but marks follows the first
mark. -/

namespace ReleaseGate.Request

variable {request taken : Request} {text rest : String}

/-- A part of a request in which the mark is looked for. -/
inductive Place where
  | architecture
  | platform
  | platformVersion
  | version
  deriving DecidableEq, Repr

namespace Place

/-- The order in which the parts are looked at. -/
def all : List Place := [architecture, platform, platformVersion, version]

def value (request : Request) : Place → String
  | architecture => request.architecture
  | platform => request.platform
  | platformVersion => request.platformVersion
  | version => request.version

def put (request : Request) : Place → String → Request
  | architecture, text => { request with architecture := text }
  | platform, text => { request with platform := text }
  | platformVersion, text => { request with platformVersion := text }
  | version, text => { request with version := text }

theorem value_put_self (request : Request) (place : Place) (text : String) :
    place.value (place.put request text) = text := by
  cases place <;> rfl

theorem value_put_other {place other : Place} (h : other ≠ place) (text : String) :
    other.value (place.put request text) = other.value request := by
  cases place <;> cases other <;> simp_all [put, value]

end Place

/-- The request after `take` has taken something from the first part that it can take from. -/
def takenBy (take : String → Option String) (request : Request) : Option Request :=
  Place.all.findSome? fun place => (take (place.value request)).map (place.put request)

theorem takeMetadataMark?_eq (request : Request) :
    request.takeMetadataMark? = request.takenBy unmarked? := by
  unfold takeMetadataMark? takenBy Place.all
  simp only [List.findSome?_cons, List.findSome?_nil, Place.value]
  cases unmarked? request.architecture with
  | some architecture => rfl
  | none =>
    cases unmarked? request.platform with
    | some platform => rfl
    | none =>
      cases unmarked? request.platformVersion with
      | some platformVersion => rfl
      | none => cases unmarked? request.version <;> rfl

/-- The text without the mark at its end, if the mark stands there. -/
def ending? (text : String) : Option String :=
  (text.toList.dropSuffix? metadataMark.toList).map String.ofList

/-- The first part of the request that has the mark, wherever it stands in it. -/
def firstMarked? (request : Request) : Option Place :=
  Place.all.find? fun place => Marked (place.value request)

/-- The first part of the request from which `take` can take something. -/
def firstBy (take : String → Option String) (request : Request) : Option Place :=
  Place.all.find? fun place => (take (place.value request)).isSome

theorem takenBy_eq (take : String → Option String) (request : Request) :
    request.takenBy take = (request.firstBy take).bind fun place =>
      (take (place.value request)).map (place.put request) := by
  unfold takenBy firstBy
  induction Place.all with
  | nil => rfl
  | cons place places ih =>
    rw [List.findSome?_cons, List.find?_cons]
    cases found : take (place.value request) with
    | some text => simp [found]
    | none => simpa using ih

theorem ending?_eq_some_iff : ending? text = some rest ↔ text = rest ++ metadataMark := by
  unfold ending?
  simp only [Option.map_eq_some_iff, List.dropSuffix?_eq_some_iff, beq_iff_eq]
  rw [← String.toList_inj, String.toList_append]
  constructor
  · rintro ⟨front, ⟨_, whole, rfl⟩, rfl⟩
    rwa [String.toList_ofList]
  · intro whole
    exact ⟨rest.toList, ⟨_, whole, rfl⟩, String.ofList_toList⟩

theorem marked_of_ending? (h : ending? text = some rest) : Marked text := by
  rw [ending?_eq_some_iff.mp h]
  exact marked_append_mark rest

theorem unmarked?_eq_some_iff : unmarked? text = some rest ↔
    ∃ front back, text.toList = front ++ (metadataMark.toList ++ back) ∧
      ¬ metadataMark.toList <:+: front ∧ rest = String.ofList (front ++ back) := by
  unfold unmarked?
  rw [Option.map_eq_some_iff]
  constructor
  · rintro ⟨_, found, rfl⟩
    obtain ⟨front, back, whole, rfl, first⟩ := Text.first_of_without? (by decide) found
    exact ⟨front, back, whole, first, rfl⟩
  · rintro ⟨front, back, whole, first, rfl⟩
    refine ⟨front ++ back, ?_, rfl⟩
    rw [whole, Text.without?_of_first unbordered_metadataMark first]

theorem unmarked?_ne_self : unmarked? text ≠ some text := by
  intro found
  obtain ⟨front, back, whole, -, same⟩ := unmarked?_eq_some_iff.mp found
  have lengths := congrArg List.length whole
  rw [same, String.toList_ofList] at lengths
  simp only [List.length_append] at lengths
  have filled : 0 < metadataMark.toList.length := by decide
  omega

theorem isSome_unmarked? : (unmarked? text).isSome = decide (Marked text) := by
  rw [Bool.eq_iff_iff, Option.isSome_iff_ne_none, Ne, unmarked?_eq_none_iff, not_not,
    decide_eq_true_iff]

theorem firstBy_unmarked? (request : Request) :
    request.firstBy unmarked? = request.firstMarked? := by
  unfold firstBy firstMarked?
  simp only [isSome_unmarked?]

/-- The mark that is taken from a text is the one at its end exactly when nothing but marks follows
the first. -/
theorem unmarked?_eq_ending?_iff (marked : Marked text) :
    unmarked? text = ending? text ↔ MarksLast text := by
  constructor
  · intro same
    cases found : unmarked? text with
    | none => exact absurd marked (unmarked?_eq_none_iff.mp found)
    | some rest =>
      rw [found] at same
      obtain rfl := ending?_eq_some_iff.mp same.symm
      obtain ⟨front, n, first, whole⟩ := unmarked?_append_mark.mp found
      refine ⟨front, n + 1, first, ?_⟩
      rw [String.toList_append, whole, List.replicate_succ', List.flatten_concat, List.append_assoc]
  · rintro ⟨front, n, first, whole⟩
    cases n with
    | zero =>
      unfold Marked at marked
      rw [whole] at marked
      exact absurd (by simpa using marked) first
    | succ n =>
      obtain ⟨rest, rfl⟩ : ∃ rest : String, text = rest ++ metadataMark := by
        refine ⟨String.ofList (front ++ (List.replicate n metadataMark.toList).flatten), ?_⟩
        rw [← String.toList_inj, whole, String.toList_append, String.toList_ofList,
          List.replicate_succ', List.flatten_concat, List.append_assoc]
      have before : MarksLast rest := by
        refine ⟨front, n, first, ?_⟩
        rw [String.toList_append, List.replicate_succ', List.flatten_concat, ← List.append_assoc]
          at whole
        exact List.append_cancel_right whole
      rw [unmarked?_append_mark.mpr before, ending?_eq_some_iff.mpr rfl]

theorem ending?_eq_none (unmarked : ¬ Marked text) : ending? text = none := by
  rw [Option.eq_none_iff_forall_ne_some]
  intro rest ended
  exact unmarked (marked_of_ending? ended)

/-- A part that ends with the mark is the first to do so if it is the first to have the mark. -/
theorem firstBy_ending? {place : Place} (first : request.firstMarked? = some place)
    (ended : ending? (place.value request) = some rest) : request.firstBy ending? = some place := by
  obtain ⟨-, before, after, split, earlier⟩ := List.find?_eq_some_iff_append.mp first
  refine List.find?_eq_some_iff_append.mpr ⟨by rw [ended]; rfl, before, after, split, ?_⟩
  intro other among
  rw [ending?_eq_none (by simpa using earlier other among)]
  rfl

theorem takenBy_ending?_eq_none (h : request.firstMarked? = none) :
    request.takenBy ending? = none := by
  have unmarked : request.firstBy ending? = none := by
    rw [firstMarked?, List.find?_eq_none] at h
    rw [firstBy, List.find?_eq_none]
    intro place among
    rw [ending?_eq_none (by simpa using h place among)]
    simp
  rw [takenBy_eq, unmarked, Option.bind_none]

theorem marked_of_first {place : Place} (first : request.firstMarked? = some place) :
    Marked (place.value request) := by
  simpa using List.find?_some first

theorem exists_unmarked? {place : Place} (first : request.firstMarked? = some place) :
    ∃ rest, unmarked? (place.value request) = some rest := by
  rw [← Option.isSome_iff_exists, isSome_unmarked?]
  exact decide_eq_true (marked_of_first first)

/-- What is taken is the first mark of the first part that has one. -/
theorem takeMetadataMark?_eq_some_iff : request.takeMetadataMark? = some taken ↔
    ∃ place front back, request.firstMarked? = some place ∧
      (place.value request).toList = front ++ (metadataMark.toList ++ back) ∧
      ¬ metadataMark.toList <:+: front ∧
      taken = place.put request (String.ofList (front ++ back)) := by
  rw [takeMetadataMark?_eq, takenBy_eq, firstBy_unmarked?]
  simp only [Option.bind_eq_some_iff, Option.map_eq_some_iff, unmarked?_eq_some_iff]
  constructor
  · rintro ⟨place, first, _, ⟨front, back, whole, unmarked, rfl⟩, rfl⟩
    exact ⟨place, front, back, first, whole, unmarked, rfl⟩
  · rintro ⟨place, front, back, first, whole, unmarked, rfl⟩
    exact ⟨place, first, _, ⟨front, back, whole, unmarked, rfl⟩, rfl⟩

/-- If the same is taken as from an end, then the mark that is taken is at the end. -/
theorem unmarked?_eq_ending? {place : Place} (first : request.firstMarked? = some place)
    (same : request.takeMetadataMark? = request.takenBy ending?) :
    unmarked? (place.value request) = ending? (place.value request) := by
  obtain ⟨rest, found⟩ := exists_unmarked? first
  rw [takeMetadataMark?_eq, takenBy_eq, firstBy_unmarked?, first, Option.bind_some, found,
    Option.map_some] at same
  obtain ⟨other, -, put⟩ := List.exists_of_findSome?_eq_some same.symm
  obtain ⟨rest', ended, put⟩ := Option.map_eq_some_iff.mp put
  have value := congrArg place.value put
  rw [place.value_put_self] at value
  by_cases here : place = other
  · subst here
    rw [place.value_put_self] at value
    rw [found, ended, value]
  · -- What is taken from another part leaves this one as it is.
    rw [Place.value_put_other here] at value
    rw [value] at found
    exact absurd found unmarked?_ne_self

/-- A request loses the first mark of the first part that has one, and nothing else. That is the
mark at the end of the first part that ends with one, or no mark where no part ends with one,
exactly when nothing but marks follows the mark that is taken. -/
theorem taken_at_end_iff (request : Request) :
    (∀ taken, request.takeMetadataMark? = some taken ↔
      ∃ place front back, request.firstMarked? = some place ∧
        (place.value request).toList = front ++ (metadataMark.toList ++ back) ∧
        ¬ metadataMark.toList <:+: front ∧
        taken = place.put request (String.ofList (front ++ back))) ∧
    (request.takeMetadataMark? = request.takenBy ending? ↔
      ∀ place, request.firstMarked? = some place → MarksLast (place.value request)) := by
  refine ⟨fun _ => takeMetadataMark?_eq_some_iff, ?_, ?_⟩
  · intro same place first
    exact (unmarked?_eq_ending?_iff (marked_of_first first)).mp (unmarked?_eq_ending? first same)
  · intro last
    rw [takeMetadataMark?_eq, takenBy_eq, firstBy_unmarked?]
    cases first : request.firstMarked? with
    | none => rw [takenBy_ending?_eq_none first, Option.bind_none]
    | some place =>
      obtain ⟨rest, found⟩ := exists_unmarked? first
      have same := (unmarked?_eq_ending?_iff (marked_of_first first)).mpr (last place first)
      rw [found] at same
      rw [takenBy_eq, firstBy_ending? first same.symm, Option.bind_some, Option.bind_some, found,
        same]

/-- What is asked for the signature of a metadata document. -/
def signature : Request where
  channel := .stable
  product := "chef"
  architecture := "x86_64.metadata.json.sig"

/-- A mark is taken though no part ends with it. -/
theorem inner_mark_taken : signature.takenBy ending? = none ∧
    signature.takeMetadataMark? = some { signature with architecture := "x86_64.sig" } := by
  decide

end ReleaseGate.Request
