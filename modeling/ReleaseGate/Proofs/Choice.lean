import ReleaseGate.Proofs.Pieces
import ReleaseGate.Version.Choice

/-! What the choice of a version gives, and that it stands when it is made again. -/

namespace ReleaseGate.Version

/-- The version requested, or one that continues it past a dot. -/
def Extends (requested version : String) : Prop :=
  version = requested ∨ ∃ rest, version = requested ++ "." ++ rest

theorem extends_iff_chars {requested version : String} :
    Extends requested version ↔ version.toList = requested.toList ∨
      ∃ rest, version.toList = requested.toList ++ '.' :: rest := by
  constructor
  · rintro (rfl | ⟨rest, rfl⟩)
    · exact .inl rfl
    · exact .inr ⟨rest.toList, by simp⟩
  · rintro (same | ⟨rest, same⟩)
    · exact .inl (String.toList_inj.mp same)
    · refine .inr ⟨String.ofList rest, String.toList_inj.mp ?_⟩
      simpa using same

theorem answers_iff {requested version : String} :
    answers requested version = true ↔ Extends requested version := by
  rw [extends_iff_chars]
  unfold answers
  cases taken : requested.toList.isPrefixOf? version.toList with
  | none =>
    have apart : ∀ rest, version.toList ≠ requested.toList ++ rest := by
      intro rest same
      rw [(Text.isPrefixOf?_eq_some_iff _).mpr same] at taken
      cases taken
    constructor
    · intro h
      cases h
    · rintro (same | ⟨rest, same⟩)
      · exact absurd (by simpa using same) (apart [])
      · exact absurd same (apart _)
  | some rest =>
    rw [Text.isPrefixOf?_eq_some_iff] at taken
    rw [taken]
    cases rest with
    | nil => simp
    | cons c rest => simp

theorem extends_trans {one two three : String} (h : Extends one two) (h' : Extends two three) :
    Extends one three := by
  obtain rfl | ⟨rest, rfl⟩ := h
  · exact h'
  · obtain rfl | ⟨more, rfl⟩ := h'
    · exact .inr ⟨rest, rfl⟩
    · exact .inr ⟨rest ++ "." ++ more, by simp only [String.append_assoc]⟩

/-- What a chosen version is: the last candidate when any will do, and else one that extends the
version requested. -/
structure Chosen (requested : String) (candidates : List String) (version : String) : Prop where
  candidate : version ∈ candidates
  last : wantsLatest requested = true → candidates.getLast? = some version
  extended : wantsLatest requested = false → Extends requested version

theorem chosen_of_choose {requested version : String} {candidates : List String}
    (h : choose requested candidates = .ok version) : Chosen requested candidates version := by
  unfold choose at h
  split at h
  · rename_i latest
    split at h
    · rename_i found
      cases h
      exact ⟨List.mem_of_getLast? found, fun _ => found, by simp [latest]⟩
    · cases h
  · rename_i latest
    split at h
    · rename_i found
      cases h
      refine ⟨List.mem_reverse.mp (List.mem_of_find?_eq_some found), by simp [latest], ?_⟩
      intro _
      exact answers_iff.mp (List.find?_some found)
    · cases h

/-- There are candidates, and none of them is what was requested. -/
structure Unanswered (requested : String) (candidates : List String) : Prop where
  nonempty : candidates ≠ []
  version : wantsLatest requested = false
  unmet : ∀ version ∈ candidates, ¬ Extends requested version

theorem unanswered_of_choose {requested : String} {candidates : List String} {failure : Failure}
    (nonempty : candidates ≠ []) (h : choose requested candidates = .error failure) :
    Unanswered requested candidates ∧ failure = .versionNotSupported requested := by
  unfold choose at h
  split at h
  · split at h
    · cases h
    · rename_i empty
      exact absurd (List.getLast?_eq_none_iff.mp empty) nonempty
  · rename_i latest
    split at h
    · cases h
    · rename_i missing
      cases h
      refine ⟨⟨nonempty, by simpa using latest, ?_⟩, rfl⟩
      intro version hv extended
      have unmet := List.find?_eq_none.mp missing version (List.mem_reverse.mpr hv)
      exact unmet (answers_iff.mpr extended)

theorem Chosen.answered {requested version : String} {candidates : List String}
    (h : Chosen requested candidates version) : ¬ Unanswered requested candidates := by
  intro unanswered
  exact unanswered.unmet version h.candidate (h.extended unanswered.version)

/-- The last of the candidates that extend the version requested. -/
def LastExtending (requested : String) (candidates : List String) (version : String) : Prop :=
  Extends requested version ∧ ∃ before after, candidates = before ++ version :: after ∧
    ∀ other ∈ after, ¬ Extends requested other

/-- No candidate that extends the version requested stands after the last one that does. -/
theorem LastExtending.not_before {requested version other : String} {before after : List String}
    (h : LastExtending requested (before ++ version :: after) other)
    (unmet : ∀ later ∈ after, ¬ Extends requested later) (extended : Extends requested version) :
    other = version := by
  obtain ⟨extends', before', after', split, unmet'⟩ := h
  obtain ⟨middle, rfl, rest⟩ | ⟨middle, rfl, rest⟩ := List.append_eq_append_iff.mp split
  · cases middle with
    | nil => exact (List.cons.inj rest).1.symm
    | cons _ middle =>
      obtain ⟨rfl, rfl⟩ := List.cons.inj rest
      exact absurd extends' (unmet other (by simp))
  · cases middle with
    | nil => exact (List.cons.inj rest).1
    | cons _ middle =>
      obtain ⟨rfl, rfl⟩ := List.cons.inj rest
      exact absurd extended (unmet' version (by simp))

theorem choose_of_extends {requested version : String} {candidates : List String}
    (pinned : wantsLatest requested = false) (member : version ∈ candidates)
    (extended : Extends requested version) :
    ∃ last, LastExtending requested candidates last ∧ choose requested candidates = .ok last := by
  unfold choose
  rw [if_neg (by simp [pinned])]
  cases found : candidates.reverse.find? (answers requested) with
  | none =>
    have unmet := List.find?_eq_none.mp found version (List.mem_reverse.mpr member)
    exact absurd (answers_iff.mpr extended) unmet
  | some last =>
    obtain ⟨answered, after, before, split, unmet⟩ := List.find?_eq_some_iff_append.mp found
    refine ⟨last, ⟨answers_iff.mp answered, before.reverse, after.reverse, ?_, ?_⟩, rfl⟩
    · rw [← List.reverse_reverse candidates, split]
      simp
    · intro other hother extended
      have apart := unmet other (List.mem_reverse.mp hother)
      rw [answers_iff.mpr extended] at apart
      cases apart

/-- No text that continues past a dot asks for the newest release. -/
theorem wantsLatest_of_extends {requested version : String} (h : Extends requested version)
    (latest : wantsLatest version = true) : wantsLatest requested = true := by
  obtain rfl | ⟨rest, rfl⟩ := h
  · exact latest
  · have dotted : '.' ∈ (requested ++ "." ++ rest).toList := by simp
    simp only [wantsLatest, Bool.or_eq_true, decide_eq_true_eq] at latest
    obtain empty | word := latest
    · rw [empty] at dotted
      exact absurd dotted (by decide)
    · rw [word] at dotted
      exact absurd dotted (by decide)

/-- A version that was chosen is chosen again when it is what is requested. -/
theorem choose_again {requested version : String} {candidates : List String}
    (h : choose requested candidates = .ok version) : choose version candidates = .ok version := by
  have chosen := chosen_of_choose h
  have itself : answers version version = true := answers_iff.mpr (.inl rfl)
  unfold choose
  cases latest : wantsLatest version with
  | true =>
    have requestedLatest : wantsLatest requested = true := by
      cases other : wantsLatest requested with
      | true => rfl
      | false => rw [wantsLatest_of_extends (chosen.extended other) latest] at other; cases other
    simp [chosen.last requestedLatest]
  | false =>
    have found : candidates.reverse.find? (answers version) = some version := by
      unfold choose at h
      split at h
      · rename_i requestedLatest
        obtain ⟨front, rfl⟩ := List.getLast?_eq_some_iff.mp (chosen.last requestedLatest)
        simp [itself]
      · split at h
        · rename_i first
          cases h
          obtain ⟨answered, before, after, split, unmet⟩ := List.find?_eq_some_iff_append.mp first
          refine List.find?_eq_some_iff_append.mpr ⟨itself, before, after, split, ?_⟩
          intro other hother
          -- What extends the chosen version extends the requested one too.
          have apart := unmet other hother
          simp only [Bool.not_eq_true', Bool.eq_false_iff, ne_eq, answers_iff] at apart answered ⊢
          intro extended
          exact apart (extends_trans answered extended)
        · cases h
    simp [found]

end ReleaseGate.Version
