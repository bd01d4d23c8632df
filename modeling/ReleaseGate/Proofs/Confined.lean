import ReleaseGate.Objects.Local
import ReleaseGate.Proofs.Pieces

/-! What a path says, and how the path of an object keeps below the root of its store. -/

namespace ReleaseGate.Files

/-- The pieces of a path that say nothing. -/
def silent : List (List Char) := [[], ['.']]

/-- The names between the slashes of a path. -/
def names (path : String) : List String :=
  ((Text.pieces '/' path.toList).filter (· ∉ silent)).map String.ofList

/-- There is nothing but a dot before the first slash. -/
def startsWithDot (path : String) : Bool := (Text.pieces '/' path.toList).head? == some ['.']

/-- What a path says before its first name. -/
def start (path : String) : List Component :=
  if isAbsolute path then [.root] else if startsWithDot path then [.here] else []

namespace Component

/-- Two dots lead up; every other name is just that. -/
def ofName (name : String) : Component := if name = ".." then .up else .name name

variable {piece : List Char}

theorem ofPiece?_silent (h : piece ∈ silent) : ofPiece? piece = none :=
  if_pos (by simpa [silent] using h)

theorem ofPiece?_name (h : piece ∉ silent) :
    ofPiece? piece = some (ofName (String.ofList piece)) := by
  have up : String.ofList piece = ".." ↔ piece = ['.', '.'] := by
    rw [← String.toList_inj, String.toList_ofList]
    rfl
  rw [ofPiece?, if_neg (by simpa [silent] using h)]
  simp only [ofName, up]
  split <;> rfl

theorem filterMap_ofPiece? (pieces : List (List Char)) :
    pieces.filterMap ofPiece? = ((pieces.filter (· ∉ silent)).map String.ofList).map ofName := by
  induction pieces with
  | nil => rfl
  | cons piece rest ih =>
    by_cases h : piece ∈ silent
    · rw [List.filterMap_cons_none (ofPiece?_silent h), ih, List.filter_cons_of_neg (by simpa)]
    · rw [List.filterMap_cons_some (ofPiece?_name h), ih, List.filter_cons_of_pos (by simpa)]
      rfl

end Component

/-- A path is absolute when its first piece is empty and not all of it. -/
theorem isAbsolute_eq {path : String} {first : List Char} {rest : List (List Char)}
    (pieces : Text.pieces '/' path.toList = first :: rest) :
    isAbsolute path = (first.isEmpty && !rest.isEmpty) := by
  unfold isAbsolute
  cases text : path.toList with
  | nil =>
    rw [text] at pieces
    cases pieces
    rfl
  | cons c cs =>
    rw [text, Text.pieces] at pieces
    by_cases slash : c = '/'
    · rw [if_pos slash] at pieces
      cases pieces
      simpa [slash] using Text.pieces_ne_nil cs
    · rw [if_neg slash] at pieces
      split at pieces <;> cases pieces <;> simp [slash]

/-- A path says what it starts with, and then its names. -/
theorem components_eq (path : String) :
    components path = start path ++ (names path).map .ofName := by
  unfold components start startsWithDot names
  rw [← Component.filterMap_ofPiece?]
  cases pieces : Text.pieces '/' path.toList with
  | nil => exact absurd pieces (Text.pieces_ne_nil _)
  | cons first rest =>
    rw [isAbsolute_eq pieces]
    split
    · contradiction
    · rename_i same
      cases same
      have skipped : Component.ofPiece? [] = none := Component.ofPiece?_silent (by decide)
      cases rest <;> simp [skipped]
    · rename_i same
      cases same
      have skipped : Component.ofPiece? ['.'] = none := Component.ofPiece?_silent (by decide)
      simp [skipped]
    · rename_i filled undotted
      have letters : first ≠ [] := by
        rintro rfl
        exact filled rest rfl
      have other : first ≠ ['.'] := by
        rintro rfl
        exact undotted rest rfl
      simp [letters, other]

/-- A path that is joined to another follows it behind a slash, which may have been there. -/
theorem toList_join {base path : String} (relative : isAbsolute path = false) (filled : base ≠ "") :
    ∃ front, (join base path).toList = front ++ '/' :: path.toList ∧
      (base.toList = front ∨ base.toList = front ++ ['/']) := by
  unfold join
  rw [if_neg (by simp [relative, filled])]
  split
  · rename_i slashed
    obtain ⟨front, closed⟩ := List.getLast?_eq_some_iff.mp slashed
    exact ⟨front, by simp [closed], .inr closed⟩
  · exact ⟨base.toList, by simp, .inl rfl⟩

/-- What starts a path starts every path that is joined to it. -/
theorem start_join {base path : String} (relative : isAbsolute path = false) (filled : base ≠ "") :
    start (join base path) = start base := by
  obtain ⟨front, joined, text⟩ := toList_join relative filled
  have first : (join base path).toList.head? = base.toList.head? := by
    rw [joined]
    obtain same | closed := text
    · obtain ⟨c, rest, spelled⟩ :=
        List.exists_cons_of_ne_nil (String.toList_eq_nil_iff.not.mpr filled)
      rw [← same, spelled]
      rfl
    · rw [closed, List.head?_append, List.head?_append]
      rfl
  have piece : (Text.pieces '/' (join base path).toList).head? =
      (Text.pieces '/' base.toList).head? := by
    have parted : Text.pieces '/' front ≠ [] := Text.pieces_ne_nil front
    obtain ⟨c, rest, filled⟩ := List.exists_cons_of_ne_nil parted
    rw [joined, Text.pieces_append_cons]
    obtain same | closed := text
    · rw [same, filled]
      rfl
    · rw [closed, Text.pieces_append_cons, filled]
      rfl
  rw [start, start, isAbsolute, isAbsolute, startsWithDot, startsWithDot, first, piece]

/-- Nothing is lost or added when paths are joined. -/
theorem names_join {base path : String} (relative : isAbsolute path = false) :
    names (join base path) = names base ++ names path := by
  by_cases empty : base = ""
  · subst empty
    simp [join, names, Text.pieces, silent]
  · obtain ⟨front, joined, text⟩ := toList_join relative empty
    have same : (Text.pieces '/' base.toList).filter (· ∉ silent) =
        (Text.pieces '/' front).filter (· ∉ silent) := by
      obtain same | closed := text
      · rw [same]
      · rw [closed, Text.pieces_append_cons, List.filter_append]
        simp [Text.pieces, silent]
    rw [names, names, joined, Text.pieces_append_cons, List.filter_append, List.map_append, same]
    rfl

/-- A name of a path is neither empty nor a dot, and no slash is in it. -/
theorem plain_of_mem_names {path name : String} (h : name ∈ names path) :
    name ≠ "" ∧ name ≠ "." ∧ '/' ∉ name.toList := by
  obtain ⟨piece, among, rfl⟩ := List.mem_map.mp h
  obtain ⟨there, speaks⟩ := List.mem_filter.mp among
  simp only [silent, List.mem_cons, List.not_mem_nil, or_false, not_or, decide_eq_true_eq] at speaks
  have spelt (text : String) : String.ofList piece = text ↔ piece = text.toList := by
    rw [← String.toList_inj, String.toList_ofList]
  refine ⟨(spelt "").not.mpr speaks.1, (spelt ".").not.mpr speaks.2, ?_⟩
  rw [String.toList_ofList]
  exact Text.not_mem_of_mem_pieces there

end ReleaseGate.Files

namespace ReleaseGate.Objects.Local

open Files (Component components names start)

/-- A path that does not keep below where it starts: it begins at the root or at a dot, or it goes
up somewhere. -/
def Strays (path : String) : Prop :=
  Files.isAbsolute path = true ∨ Files.startsWithDot path = true ∨ ".." ∈ names path

instance (path : String) : Decidable (Strays path) := inferInstanceAs (Decidable (_ ∨ _ ∨ _))

variable {path : String}

theorem strays_iff : Strays path ↔ start path ≠ [] ∨ ".." ∈ names path := by
  rw [Strays, ← or_assoc, start]
  apply or_congr_left
  cases Files.isAbsolute path <;> cases Files.startsWithDot path <;> simp

/-- A path that does not stray says nothing but names. -/
theorem components_of_not_strays (h : ¬ Strays path) :
    components path = (names path).map .name := by
  rw [strays_iff, not_or, not_not] at h
  rw [Files.components_eq, h.1, List.nil_append]
  refine List.map_congr_left fun name among => if_neg ?_
  rintro rfl
  exact h.2 among

theorem all_isName_iff : (components path).all (·.isName) = true ↔ ¬ Strays path := by
  constructor
  · intro all strays
    rw [Files.components_eq, List.all_append, Bool.and_eq_true] at all
    obtain started | up := strays_iff.mp strays
    · revert started all
      unfold start
      cases Files.isAbsolute path <;> cases Files.startsWithDot path <;> simp [Component.isName]
    · have named := List.all_eq_true.mp all.2 _ (List.mem_map_of_mem up)
      simp [Component.ofName, Component.isName] at named
  · intro confined
    rw [components_of_not_strays confined]
    simp [Component.isName]

/-- What does not stray leads on from wherever it is joined to. -/
theorem components_join (base : String) (h : ¬ Strays path) :
    components (Files.join base path) = components base ++ components path := by
  have relative : Files.isAbsolute path = false := by
    rw [Strays, not_or] at h
    simpa using h.1
  by_cases empty : base = ""
  · subst empty
    have silent : components "" = [] := by decide
    rw [silent, List.nil_append, Files.join, if_pos (by simp)]
  · have unstarted : start path = [] := by
      rw [strays_iff, not_or, not_not] at h
      exact h.1
    simp only [Files.components_eq, Files.start_join relative empty, Files.names_join relative,
      unstarted, List.map_append, List.append_assoc, List.nil_append]

/-- Where a joined path does not stray, what it is joined to does not either, and its names are
those of both. -/
theorem join_of_not_strays {bucket key : String} (h : ¬ Strays (Files.join bucket key)) :
    ¬ Strays bucket ∧ names (Files.join bucket key) = names bucket ++ names key := by
  have relative : Files.isAbsolute key = false := by
    by_contra absolute
    rw [Bool.not_eq_false] at absolute
    exact h (.inl (by rwa [Files.join, absolute, Bool.true_or, if_pos rfl]))
  refine ⟨fun strays => ?_, Files.names_join relative⟩
  by_cases empty : bucket = ""
  · subst empty
    revert strays
    decide
  · rw [strays_iff, Files.start_join relative empty, Files.names_join relative] at h
    rw [strays_iff] at strays
    exact h (strays.imp id (List.mem_append_left _))

/-- The path of an object is that of the root with the names of bucket and key behind it, all of
them plain. There is none for a bucket and a key that stray when they are joined. -/
theorem path_below_root (root bucket key : String) :
    (Strays (Files.join bucket key) →
      Local.path root bucket key = .error (.validation "key" ("invalid object key " ++ key))) ∧
    (¬ Strays (Files.join bucket key) →
      ∃ place, Local.path root bucket key = .ok place ∧
        components place = components root ++ components bucket ++ (names key).map .name ∧
        components bucket = (names bucket).map .name ∧
        ∀ name ∈ names bucket ++ names key,
          name ≠ "" ∧ name ≠ "." ∧ name ≠ ".." ∧ '/' ∉ name.toList) := by
  unfold Local.path
  constructor
  · intro strays
    rw [if_neg (all_isName_iff.not.mpr (not_not_intro strays))]
  · intro confined
    obtain ⟨within, joined⟩ := join_of_not_strays confined
    rw [if_pos (all_isName_iff.mpr confined)]
    refine ⟨_, rfl, ?_, components_of_not_strays within, ?_⟩
    · rw [components_join root confined, components_of_not_strays confined, joined,
        components_of_not_strays within, List.map_append, List.append_assoc]
    · rw [← joined]
      intro name among
      obtain ⟨filled, undotted, unslashed⟩ := Files.plain_of_mem_names among
      refine ⟨filled, undotted, ?_, unslashed⟩
      rintro rfl
      exact confined (.inr (.inr among))

example : Local.path "/srv" "artifacts" "./current//19.1.0/chef.rpm" =
    .ok "/srv/artifacts/./current//19.1.0/chef.rpm" := by decide +kernel

end ReleaseGate.Objects.Local
