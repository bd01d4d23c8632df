import Mathlib.Data.List.Basic
import Mathlib.Data.List.DropRight
import ReleaseGate.Text.Pieces

/-! Text that was put together from pieces comes apart into the same pieces. -/

namespace ReleaseGate.Text

variable {sep : Char}

/-- What is taken off the front of a list is the front of it. -/
theorem isPrefixOf?_eq_some_iff {whole rest : List Char} (front : List Char) :
    front.isPrefixOf? whole = some rest ↔ whole = front ++ rest := by
  induction front generalizing whole with
  | nil => simp [List.isPrefixOf?]
  | cons c front ih =>
    cases whole with
    | nil => simp [List.isPrefixOf?]
    | cons d whole =>
      simp only [List.isPrefixOf?, beq_iff_eq, List.cons_append, List.cons.injEq]
      split
      · rename_i same
        rw [ih, same]
        simp
      · rename_i differ
        simp only [reduceCtorEq, false_iff, not_and]
        intro same
        exact absurd same.symm differ

theorem pieces_eq_splitOn (sep : Char) (cs : List Char) : pieces sep cs = cs.splitOn sep := by
  induction cs with
  | nil => rfl
  | cons c cs ih =>
    rw [pieces, ih, List.splitOn_cons_eq_if_modifyHead]
    simp only [beq_iff_eq]
    split
    · rfl
    · obtain ⟨first, rest, split⟩ := List.exists_cons_of_ne_nil (List.splitOn_ne_nil sep cs)
      rw [split]
      rfl

theorem pieces_ne_nil (cs : List Char) : pieces sep cs ≠ [] := by
  rw [pieces_eq_splitOn]
  exact List.splitOn_ne_nil sep cs

/-- A text comes apart at any of its separators. -/
theorem pieces_append_cons (front rest : List Char) :
    pieces sep (front ++ sep :: rest) = pieces sep front ++ pieces sep rest := by
  simp only [pieces_eq_splitOn, List.splitOn_append_cons_self]

theorem pieces_eq_self {cs : List Char} (h : sep ∉ cs) : pieces sep cs = [cs] := by
  rw [pieces_eq_splitOn, List.splitOn_eq_singleton h]

theorem pieces_append {front : List Char} (h : sep ∉ front) (rest : List Char) :
    pieces sep (front ++ sep :: rest) = front :: pieces sep rest := by
  rw [pieces_append_cons, pieces_eq_self h, List.singleton_append]

/-- What comes before the first separator becomes part of the first piece. -/
theorem splitOn_append_right {α : Type} [BEq α] [LawfulBEq α] {sep : α} {front : List α}
    (h : sep ∉ front) (rest : List α) :
    (front ++ rest).splitOn sep = (rest.splitOn sep).modifyHead (front ++ ·) := by
  induction front with
  | nil =>
    rw [List.nil_append]
    cases rest.splitOn sep <;> rfl
  | cons a front ih =>
    simp only [List.mem_cons, not_or] at h
    rw [List.cons_append, List.splitOn_cons_eq_if_modifyHead, if_neg (by simpa using Ne.symm h.1),
      ih h.2, List.modifyHead_modifyHead]
    rfl

/-- No piece holds the separator. -/
theorem not_mem_of_mem_splitOn {α : Type} [BEq α] [LawfulBEq α] {sep : α} {whole piece : List α}
    (h : piece ∈ whole.splitOn sep) : sep ∉ piece := by
  induction whole generalizing piece with
  | nil =>
    rw [List.mem_singleton.mp h]
    exact List.not_mem_nil
  | cons a whole ih =>
    rw [List.splitOn_cons_eq_if_modifyHead] at h
    split at h
    · obtain rfl | later := List.mem_cons.mp h
      · exact List.not_mem_nil
      · exact ih later
    · rename_i other
      obtain ⟨first, rest, split⟩ := List.exists_cons_of_ne_nil (List.splitOn_ne_nil sep whole)
      rw [split] at h ih
      obtain rfl | later := List.mem_cons.mp h
      · rw [List.mem_cons, not_or]
        exact ⟨fun same => other (beq_iff_eq.mpr same.symm), ih List.mem_cons_self⟩
      · exact ih (List.mem_cons_of_mem _ later)

theorem pieces_append_right {front : List Char} (h : sep ∉ front) (rest : List Char) :
    pieces sep (front ++ rest) = (pieces sep rest).modifyHead (front ++ ·) := by
  simp only [pieces_eq_splitOn, splitOn_append_right h]

theorem not_mem_of_mem_pieces {cs piece : List Char} (h : piece ∈ pieces sep cs) : sep ∉ piece := by
  rw [pieces_eq_splitOn] at h
  exact not_mem_of_mem_splitOn h

theorem pieces_eq_singleton_iff {cs piece : List Char} :
    pieces sep cs = [piece] ↔ sep ∉ cs ∧ piece = cs := by
  constructor
  · intro whole
    have unparted : sep ∉ cs := by
      intro parted
      obtain ⟨front, rest, rfl⟩ := List.append_of_mem parted
      rw [pieces_append_cons] at whole
      have two := congrArg List.length whole
      have first : 0 < (pieces sep front).length := List.length_pos_of_ne_nil (pieces_ne_nil front)
      have second : 0 < (pieces sep rest).length := List.length_pos_of_ne_nil (pieces_ne_nil rest)
      rw [List.length_append, List.length_singleton] at two
      omega
    rw [pieces_eq_self unparted, List.singleton_inj] at whole
    exact ⟨unparted, whole.symm⟩
  · rintro ⟨unparted, rfl⟩
    exact pieces_eq_self unparted

/-- Pieces that were joined come apart again, unless one of them holds the separator. -/
theorem pieces_intercalate {parts : List (List Char)} (nonempty : parts ≠ [])
    (h : ∀ part ∈ parts, sep ∉ part) : pieces sep ([sep].intercalate parts) = parts := by
  rw [pieces_eq_splitOn, List.splitOn_intercalate sep h nonempty]

/-- Joined texts come apart into the pieces of each. -/
theorem pieces_joined {parts : List (List Char)} (nonempty : parts ≠ []) :
    pieces sep ([sep].intercalate parts) = parts.flatMap (pieces sep) := by
  induction parts with
  | nil => exact absurd rfl nonempty
  | cons part parts ih =>
    cases parts with
    | nil => simp
    | cons next rest =>
      rw [List.flatMap_cons, ← ih (List.cons_ne_nil _ _), ← pieces_append_cons,
        List.intercalate_cons_cons, List.append_assoc, List.singleton_append]

/-- What is put behind joined pieces is put behind the last of them. -/
theorem intercalate_append_last (sep : List Char) (parts : List (List Char))
    (last more : List Char) :
    sep.intercalate (parts ++ [last ++ more]) = sep.intercalate (parts ++ [last]) ++ more := by
  induction parts with
  | nil => simp
  | cons part parts ih =>
    cases parts with
    | nil => simp
    | cons next rest =>
      simp only [List.cons_append, List.intercalate_cons_cons] at ih ⊢
      rw [ih]
      simp only [List.append_assoc]

/-- What has no separator stays in front of the first one. -/
theorem cut_append_right {front : List Char} (h : sep ∉ front) (rest : List Char) :
    cut sep (front ++ rest) = (front ++ (cut sep rest).1, (cut sep rest).2) := by
  induction front with
  | nil => rfl
  | cons c front ih =>
    simp only [List.mem_cons, not_or] at h
    rw [List.cons_append, cut, if_neg (Ne.symm h.1), ih h.2, List.cons_append]

theorem cut_eq_self {cs : List Char} (h : sep ∉ cs) : cut sep cs = (cs, none) := by
  have whole := cut_append_right h []
  rwa [List.append_nil, cut, List.append_nil] at whole

theorem cut_append {front : List Char} (h : sep ∉ front) (rest : List Char) :
    cut sep (front ++ sep :: rest) = (front, some rest) := by
  rw [cut_append_right h, cut, if_pos rfl, List.append_nil]

/-- A text is cut at its first separator, or not at all if it has none. -/
theorem cut_spec (sep : Char) (cs : List Char) :
    (sep ∉ cs ∧ cut sep cs = (cs, none)) ∨
      ∃ front rest, sep ∉ front ∧ cs = front ++ sep :: rest ∧ cut sep cs = (front, some rest) := by
  by_cases parted : sep ∈ cs
  · obtain ⟨front, rest, rfl, unparted⟩ := List.eq_append_cons_of_mem parted
    exact .inr ⟨front, rest, unparted, rfl, cut_append unparted rest⟩
  · exact .inl ⟨parted, cut_eq_self parted⟩

/-- What stands behind the last separator ends with the last character. -/
theorem exists_pieces_concat {c : Char} (other : c ≠ sep) (cs : List Char) :
    ∃ front last, pieces sep (cs ++ [c]) = front ++ [last ++ [c]] := by
  induction cs with
  | nil => exact ⟨[], [], pieces_eq_self (by simpa using other.symm)⟩
  | cons d cs ih =>
    obtain ⟨front, last, split⟩ := ih
    rw [List.cons_append, pieces, split]
    by_cases same : d = sep
    · exact ⟨[] :: front, last, if_pos same⟩
    · rw [if_neg same]
      cases front with
      | nil => exact ⟨[], d :: last, rfl⟩
      | cons piece front => exact ⟨(d :: piece) :: front, last, rfl⟩

/-- The empty pieces in front are those of the separators in front. -/
theorem dropWhile_pieces (cs : List Char) : (pieces sep cs).dropWhile List.isEmpty =
    if cs.dropWhile (· == sep) = [] then [] else pieces sep (cs.dropWhile (· == sep)) := by
  induction cs with
  | nil => rfl
  | cons c cs ih =>
    by_cases same : c = sep
    · subst same
      simp only [pieces, if_true, List.dropWhile_cons, List.isEmpty_nil, beq_self_eq_true, ih]
    · rw [List.dropWhile_cons_of_neg (by simpa using same), if_neg (List.cons_ne_nil _ _)]
      rw [pieces, if_neg same]
      split <;> rfl

/-- The empty pieces at the end are those of the separators at the end. -/
theorem rdropWhile_pieces (cs : List Char) : (pieces sep cs).rdropWhile List.isEmpty =
    if cs.rdropWhile (· == sep) = [] then [] else pieces sep (cs.rdropWhile (· == sep)) := by
  induction cs using List.reverseRecOn with
  | nil => rfl
  | append_singleton cs c ih =>
    by_cases same : c = sep
    · subst same
      rw [pieces_append_cons, pieces, List.rdropWhile_concat_pos _ _ _ rfl, ih,
        List.rdropWhile_concat_pos _ _ _ (by simp)]
    · rw [List.rdropWhile_concat_neg _ _ _ (by simpa using same),
        if_neg (List.concat_ne_nil _ _)]
      obtain ⟨front, last, split⟩ := exists_pieces_concat same cs
      rw [split, List.rdropWhile_concat_neg _ _ _ (by simp)]

/-- The pieces between the slashes of a text, from the first that is not empty to the last. -/
def segments (s : String) : List (List Char) :=
  ((pieces '/' s.toList).dropWhile List.isEmpty).rdropWhile List.isEmpty

theorem segments_eq (s : String) : segments s =
    if withoutOuterSlashes s = "" then [] else pieces '/' (withoutOuterSlashes s).toList := by
  have trimmed : withoutOuterSlashes s =
      String.ofList ((s.toList.dropWhile (· == '/')).rdropWhile (· == '/')) := rfl
  simp only [segments, trimmed, dropWhile_pieces, String.toList_ofList, String.ofList_eq_empty_iff]
  by_cases empty : s.toList.dropWhile (· == '/') = []
  · simp [empty]
  · rw [if_neg empty, rdropWhile_pieces]

example : segments "//current//x86/" = ["current".toList, [], "x86".toList] := by rfl

/-- Texts joined without their outer slashes come apart into the segments of each. What is left
empty is not joined. -/
theorem pieces_joined_segments (parts : List String) :
    pieces '/' ("/".intercalate ((parts.map withoutOuterSlashes).filter (· ≠ ""))).toList =
      if parts.flatMap segments = [] then [[]] else parts.flatMap segments := by
  let kept := (parts.map withoutOuterSlashes).filter (· ≠ "")
  have joined : parts.flatMap segments = (kept.map String.toList).flatMap (pieces '/') := by
    unfold kept
    induction parts with
    | nil => rfl
    | cons part parts ih =>
      rw [List.flatMap_cons, ih, segments_eq]
      by_cases empty : withoutOuterSlashes part = "" <;> simp [empty]
  rw [joined, String.toList_intercalate]
  by_cases empty : kept = []
  · unfold kept at empty ⊢
    rw [empty]
    rfl
  · have nonempty : kept.map String.toList ≠ [] := by simpa using empty
    have whole : pieces '/' (['/'].intercalate (kept.map String.toList)) = _ :=
      pieces_joined nonempty
    rw [← whole, if_neg (pieces_ne_nil _)]
    rfl

end ReleaseGate.Text
