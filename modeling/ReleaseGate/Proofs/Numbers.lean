import ReleaseGate.Proofs.Choice
import ReleaseGate.Proofs.Grammar

/-! What numbers a version is read with, and how a version's numbers go on from those of a request
that it extends. -/

namespace ReleaseGate.Text

/-- What is taken off the end of a text is not taken past a character that stays. -/
theorem dropEndWhile_append_cons {p : Char → Bool} {c : Char} (stays : p c = false)
    (front rest : List Char) :
    dropEndWhile p (front ++ c :: rest) = front ++ c :: dropEndWhile p rest := by
  unfold dropEndWhile
  rw [List.reverse_append, List.reverse_cons, List.append_assoc, List.dropWhile_append]
  split
  · rename_i gone
    rw [List.isEmpty_iff.mp gone]
    simp [stays]
  · simp

theorem not_isBlank_dot : isBlank '.' = false := by decide

/-- Trimming a text that goes on past a dot trims the text before the dot, except for the blanks in
front of the dot. -/
theorem trimmed_append_dot {front : List Char} (filled : trimmed front ≠ []) (rest : List Char) :
    ∃ blanks last, (∀ c ∈ blanks, isBlank c = true) ∧
      trimmed (front ++ '.' :: rest) = trimmed front ++ (blanks ++ '.' :: last) := by
  have filled : front.dropWhile isBlank ≠ [] := by
    intro empty
    rw [trimmed, empty] at filled
    exact filled rfl
  obtain ⟨blanks, split, blank⟩ := exists_dropEndWhile_append isBlank (front.dropWhile isBlank)
  refine ⟨blanks, dropEndWhile isBlank rest, blank, ?_⟩
  unfold trimmed
  rw [List.dropWhile_append, if_neg (by simpa using filled),
    dropEndWhile_append_cons not_isBlank_dot]
  conv_lhs => rw [split]
  rw [List.append_assoc]

end ReleaseGate.Text

namespace ReleaseGate.Version

/-- The numeric parts of a text: what stands between dots before the first hyphen or plus sign. -/
def numericParts (cs : List Char) : List (List Char) := Text.pieces '.' (front cs).1

/-- A version that can be read has the numbers that stand in its text. -/
theorem numbered_of_lenient? {s : String} {version : Version} (h : lenient? s = some version) :
    Numbered (numericParts (bare s)) version.core := by
  rw [lenient?_eq_padded?, padded?_eq_some_iff] at h
  obtain ⟨parts, spells⟩ := h
  rw [numericParts, spells.parts_eq]
  exact spells.figures.toNumbered

/-- A request that can be read has something to read. -/
theorem trimmed_ne_nil_of_lenient? {s : String} {version : Version}
    (h : lenient? s = some version) : Text.trimmed s.toList ≠ [] := by
  intro empty
  have digits := (numbered_of_lenient? h).digits
  rw [bare, empty] at digits
  exact absurd (digits [] (by decide)) (by decide)

theorem not_isDigit_of_isBlank {c : Char} (h : Text.isBlank c = true) : c.isDigit = false := by
  have plain := not_isAlphanum_of_isBlank h
  rw [Char.isAlphanum, Bool.or_eq_false_iff] at plain
  exact plain.2

theorem bare_append_dot {requested : String} (filled : Text.trimmed requested.toList ≠ [])
    (rest : String) : ∃ blanks last, (∀ c ∈ blanks, Text.isBlank c = true) ∧
      bare (requested ++ "." ++ rest) = bare requested ++ (blanks ++ '.' :: last) := by
  obtain ⟨blanks, last, blank, same⟩ := Text.trimmed_append_dot filled rest.toList
  refine ⟨blanks, last, blank, ?_⟩
  have chars : (requested ++ "." ++ rest).toList = requested.toList ++ '.' :: rest.toList := by simp
  unfold bare
  rw [chars, same]
  cases split : Text.trimmed requested.toList with
  | nil => exact absurd split filled
  | cons c cs =>
    by_cases lead : c = 'v'
    · subst lead
      rfl
    · simp only [List.cons_append]
      split
      · rename_i same
        exact absurd (List.cons.inj same).1 lead
      · split
        · rename_i same
          exact absurd (List.cons.inj same).1 lead
        · rfl

/-- The numbers of a version go on from those of a request that it extends. -/
theorem numericParts_of_extends {requested version : String} {r v : Version}
    (extended : Extends requested version) (read : lenient? requested = some r)
    (read' : lenient? version = some v) :
    ∃ more, numericParts (bare version) = numericParts (bare requested) ++ more := by
  obtain rfl | ⟨rest, rfl⟩ := extended
  · exact ⟨[], (List.append_nil _).symm⟩
  · obtain ⟨blanks, last, blank, same⟩ := bare_append_dot (trimmed_ne_nil_of_lenient? read) rest
    have digits := (numbered_of_lenient? read').digits
    simp only [same, numericParts, front_eq] at digits ⊢
    rw [List.takeWhile_append] at digits ⊢
    split
    · rename_i whole
      have plain : ∀ c ∈ blanks, isPlain c = true := by
        intro c hc
        have signless : c ≠ '-' ∧ c ≠ '+' := by
          constructor <;> rintro rfl <;> exact absurd (blank _ hc) (by decide)
        simp [isPlain, signless.1, signless.2]
      rw [if_pos whole, List.takeWhile_append_of_pos plain] at digits
      rw [List.takeWhile_append_of_pos plain]
      -- With blanks in front of the dot the version could not be read.
      have close : blanks = [] := by
        apply List.eq_nil_iff_forall_not_mem.mpr
        intro c hc
        have isBlank := blank c hc
        obtain rfl | digit := dot_or_digit digits (by simp [hc] : c ∈ _)
        · exact absurd isBlank (by decide)
        · rw [not_isDigit_of_isBlank isBlank] at digit
          cases digit
      subst close
      have dotted : ('.' :: last).takeWhile isPlain =
          '.' :: last.takeWhile isPlain := rfl
      rw [List.nil_append, dotted, Text.pieces_append_cons]
      have self : (bare requested).takeWhile isPlain = bare requested :=
        (List.takeWhile_prefix _).eq_of_length whole
      exact ⟨_, by rw [self]⟩
    · exact ⟨[], (List.append_nil _).symm⟩

end ReleaseGate.Version
