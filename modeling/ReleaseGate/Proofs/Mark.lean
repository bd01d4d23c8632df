import ReleaseGate.Proofs.Pieces
import ReleaseGate.Request

/-! Taking the first metadata mark out of a text, and out of a request. -/

namespace ReleaseGate.Text

variable {mark cs front back rest : List Char}

/-- No end of the mark is a beginning of it, so that two of its occurrences never overlap. -/
def Unbordered (mark : List Char) : Prop := ∀ n < mark.length, 0 < n → ¬ mark.drop n <+: mark

instance (mark : List Char) : Decidable (Unbordered mark) :=
  inferInstanceAs (Decidable (∀ n < mark.length, 0 < n → ¬ mark.drop n <+: mark))

theorem isPrefixOf?_eq_none_iff : mark.isPrefixOf? cs = none ↔ ¬ mark <+: cs := by
  rw [Option.eq_none_iff_forall_ne_some]
  constructor
  · rintro h ⟨rest, rfl⟩
    exact h rest ((isPrefixOf?_eq_some_iff mark).mpr rfl)
  · intro h rest found
    exact h ⟨rest, ((isPrefixOf?_eq_some_iff mark).mp found).symm⟩

theorem without?_eq_none_iff (filled : mark ≠ []) : without? mark cs = none ↔ ¬ mark <:+: cs := by
  induction cs with
  | nil => simp [without?, filled]
  | cons c cs ih =>
    rw [without?, List.infix_cons_iff, not_or, ← ih, ← isPrefixOf?_eq_none_iff]
    cases mark.isPrefixOf? (c :: cs) <;> simp

/-- What is taken out is the first occurrence. -/
theorem first_of_without? (filled : mark ≠ []) (h : without? mark cs = some rest) :
    ∃ front back, cs = front ++ (mark ++ back) ∧ rest = front ++ back ∧ ¬ mark <:+: front := by
  induction cs generalizing rest with
  | nil => cases h
  | cons c cs ih =>
    rw [without?] at h
    cases found : mark.isPrefixOf? (c :: cs) with
    | some back =>
      rw [found] at h
      cases h
      exact ⟨[], rest, (isPrefixOf?_eq_some_iff mark).mp found, rfl, by simpa using filled⟩
    | none =>
      rw [found] at h
      obtain ⟨later, taken, rfl⟩ := Option.map_eq_some_iff.mp h
      obtain ⟨front, back, rfl, rfl, first⟩ := ih taken
      refine ⟨c :: front, back, rfl, rfl, ?_⟩
      rw [List.infix_cons_iff, not_or]
      refine ⟨fun earlier => ?_, first⟩
      exact isPrefixOf?_eq_none_iff.mp found (earlier.trans (List.prefix_append (c :: front) _))

/-- An occurrence does not begin in front of another one, for it would have to reach into it. -/
theorem not_prefix_append (unbordered : Unbordered mark) (filled : front ≠ [])
    (first : ¬ mark <:+: front) : ¬ mark <+: front ++ (mark ++ back) := by
  intro early
  by_cases short : mark.length ≤ front.length
  · exact first (List.prefix_of_prefix_length_le early (List.prefix_append _ _) short).isInfix
  · obtain ⟨tail, rfl⟩ :=
      List.prefix_of_prefix_length_le (List.prefix_append front _) early (by omega)
    rw [List.prefix_append_right_inj] at early
    have inside : tail <+: front ++ tail :=
      List.prefix_of_prefix_length_le early (List.prefix_append _ _) (by simp)
    have positive := List.length_pos_of_ne_nil filled
    refine unbordered front.length (by omega) positive ?_
    rwa [List.drop_left]

theorem without?_of_first (unbordered : Unbordered mark) (first : ¬ mark <:+: front) :
    without? mark (front ++ (mark ++ back)) = some (front ++ back) := by
  induction front with
  | nil =>
    have found : mark.isPrefixOf? (mark ++ back) = some back :=
      (isPrefixOf?_eq_some_iff mark).mpr rfl
    cases mark with
    | nil => exact absurd List.nil_infix first
    | cons c mark =>
      rw [List.cons_append] at found
      rw [List.nil_append, List.cons_append, without?, found]
      rfl
  | cons c front ih =>
    have early : ¬ mark <+: c :: front ++ (mark ++ back) :=
      not_prefix_append unbordered (List.cons_ne_nil c front) first
    have later : ¬ mark <:+: front := fun h => first (List.infix_cons h)
    rw [List.cons_append] at early ⊢
    rw [without?, isPrefixOf?_eq_none_iff.mpr early, ih later]
    rfl

theorem flatten_replicate_comm (mark : List Char) (n : Nat) :
    (List.replicate n mark).flatten ++ mark = mark ++ (List.replicate n mark).flatten := by
  rw [← List.flatten_cons, ← List.replicate_succ, List.replicate_succ', List.flatten_concat]

/-- Only marks commute with the mark. -/
theorem marks_of_comm (unbordered : Unbordered mark) (filled : mark ≠ [])
    (h : back ++ mark = mark ++ back) : ∃ n, back = (List.replicate n mark).flatten := by
  induction size : back.length using Nat.strongRecOn generalizing back with
  | _ size ih =>
    subst size
    by_cases short : back.length < mark.length
    · obtain ⟨tail, rfl⟩ : back <+: mark :=
        List.prefix_of_prefix_length_le ⟨mark, h⟩ (List.prefix_append _ _) (Nat.le_of_lt short)
      have turned : back ++ tail = tail ++ back := by simpa using h
      have empty : back.length = 0 := by
        by_contra positive
        refine unbordered back.length short (Nat.pos_of_ne_zero positive) ?_
        rw [List.drop_left]
        exact ⟨back, turned.symm⟩
      exact ⟨0, List.length_eq_zero_iff.mp empty⟩
    · obtain ⟨rest, rfl⟩ : mark <+: back :=
        List.prefix_of_prefix_length_le (List.prefix_append _ _) ⟨mark, h⟩ (Nat.le_of_not_lt short)
      have shorter : rest.length < (mark ++ rest).length := by
        have positive := List.length_pos_of_ne_nil filled
        rw [List.length_append]
        omega
      obtain ⟨n, rfl⟩ := ih rest.length shorter (by simpa using h) rfl
      exact ⟨n + 1, by rw [List.replicate_succ, List.flatten_cons]⟩

/-- The mark at the end of a text is, in effect, the one that is taken out exactly when nothing but
marks follows the first mark of the text. -/
theorem without?_append_mark (unbordered : Unbordered mark) (filled : mark ≠ []) :
    without? mark (cs ++ mark) = some cs ↔
      ∃ front n, ¬ mark <:+: front ∧ cs = front ++ (List.replicate n mark).flatten := by
  constructor
  · intro taken
    cases found : without? mark cs with
    | none => exact ⟨cs, 0, (without?_eq_none_iff filled).mp found, by simp⟩
    | some rest =>
      obtain ⟨front, back, rfl, -, first⟩ := first_of_without? filled found
      rw [List.append_assoc, List.append_assoc, without?_of_first unbordered first,
        Option.some_inj, List.append_cancel_left_eq] at taken
      obtain ⟨n, rfl⟩ := marks_of_comm unbordered filled taken
      exact ⟨front, n + 1, first, by rw [List.replicate_succ, List.flatten_cons]⟩
  · rintro ⟨front, n, first, rfl⟩
    rw [List.append_assoc, flatten_replicate_comm, without?_of_first unbordered first]

end ReleaseGate.Text

namespace ReleaseGate.Request

variable {request unmarked : Request} {text : String}

/-- The metadata mark stands somewhere in the text. -/
def Marked (text : String) : Prop := metadataMark.toList <:+: text.toList

instance (text : String) : Decidable (Marked text) :=
  inferInstanceAs (Decidable (metadataMark.toList <:+: text.toList))

/-- Nothing but further marks follows the first metadata mark of the text, if it has one. -/
def MarksLast (text : String) : Prop :=
  ∃ front n, ¬ metadataMark.toList <:+: front ∧
    text.toList = front ++ (List.replicate n metadataMark.toList).flatten

theorem unbordered_metadataMark : Text.Unbordered metadataMark.toList := by decide

theorem unmarked?_eq_none_iff : unmarked? text = none ↔ ¬ Marked text := by
  unfold unmarked?
  rw [Option.map_eq_none_iff, Text.without?_eq_none_iff (by decide)]
  rfl

theorem marked_append_mark (text : String) : Marked (text ++ metadataMark) := by
  unfold Marked
  rw [String.toList_append]
  exact (List.suffix_append _ _).isInfix

theorem unmarked?_append_mark : unmarked? (text ++ metadataMark) = some text ↔ MarksLast text := by
  unfold unmarked? MarksLast
  rw [← Text.without?_append_mark unbordered_metadataMark (by decide), String.toList_append,
    Option.map_eq_some_iff]
  constructor
  · rintro ⟨rest, found, rfl⟩
    rwa [String.toList_ofList] at found ⊢
  · intro found
    exact ⟨text.toList, found, String.ofList_toList⟩

instance (text : String) : Decidable (MarksLast text) := decidable_of_iff _ unmarked?_append_mark

-- A mark that is not at the end is taken before the one at the end.
example : ¬ MarksLast "a.metadata.jsonb" := by decide

theorem takeMetadataMark?_eq_none_iff : request.takeMetadataMark? = none ↔
    ∀ text ∈ [request.architecture, request.platform, request.platformVersion, request.version],
      ¬ Marked text := by
  simp only [List.forall_mem_cons, ← unmarked?_eq_none_iff]
  unfold takeMetadataMark?
  split
  · rename_i found
    simp [found]
  · split
    · rename_i found
      simp [found]
    · split
      · rename_i found
        simp [found]
      · simp [*]

/-- A mark in the architecture is the one that is taken. -/
theorem takeMetadataMark?_of_architecture (marked : Marked request.architecture) :
    request.takeMetadataMark? =
      (unmarked? request.architecture).map fun architecture => { request with architecture } := by
  unfold takeMetadataMark?
  split
  · rename_i found
    rw [found, Option.map_some]
  · rename_i found
    exact absurd marked (unmarked?_eq_none_iff.mp found)

/-- All but four parts of a request stay when a mark is taken from it. -/
theorem takeMetadataMark?_changes (h : request.takeMetadataMark? = some unmarked) :
    ∃ architecture platform platformVersion version,
      unmarked = { request with architecture, platform, platformVersion, version } := by
  unfold takeMetadataMark? at h
  split at h
  · cases h
    exact ⟨_, _, _, _, rfl⟩
  · split at h
    · cases h
      exact ⟨_, _, _, _, rfl⟩
    · split at h
      · cases h
        exact ⟨_, _, _, _, rfl⟩
      · obtain ⟨version, -, rfl⟩ := Option.map_eq_some_iff.mp h
        exact ⟨_, _, _, _, rfl⟩

end ReleaseGate.Request
