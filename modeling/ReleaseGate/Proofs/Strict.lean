import ReleaseGate.Proofs.Pieces
import ReleaseGate.Version.Reader

/-! The strict form of versions: which texts are in it, and what they are read as. -/

namespace ReleaseGate.Text

/-- Every character but the separators is in one of the pieces. -/
theorem mem_pieces {sep c : Char} {cs : List Char} (other : c ≠ sep) (h : c ∈ cs) :
    ∃ piece ∈ pieces sep cs, c ∈ piece := by
  obtain ⟨front, rest, rfl⟩ := List.append_of_mem h
  clear h
  induction front with
  | nil =>
    rw [List.nil_append, pieces, if_neg other]
    cases pieces sep rest with
    | nil => exact ⟨[c], by simp⟩
    | cons first others => exact ⟨c :: first, by simp⟩
  | cons d front ih =>
    obtain ⟨piece, hpiece, hc⟩ := ih
    rw [List.cons_append, pieces]
    split
    · exact ⟨piece, List.mem_cons_of_mem _ hpiece, hc⟩
    · cases split : pieces sep (front ++ c :: rest) with
      | nil => exact absurd split (pieces_ne_nil _)
      | cons first others =>
        rw [split] at hpiece
        obtain rfl | later := List.mem_cons.mp hpiece
        · exact ⟨d :: piece, by simp, List.mem_cons_of_mem _ hc⟩
        · exact ⟨piece, List.mem_cons_of_mem _ later, hc⟩

theorem intercalate_pieces (sep : Char) (cs : List Char) :
    [sep].intercalate (pieces sep cs) = cs := by
  rw [pieces_eq_splitOn, List.intercalate_splitOn]

/-- What follows a sign, with the sign in front of it, if anything does. -/
def led (sign : Char) : Option (List Char) → List Char
  | none => []
  | some cs => sign :: cs

/-- A text is cut in two where the separator first stands. -/
theorem cut_eq_iff {sep : Char} {cs front : List Char} {rest : Option (List Char)} :
    cut sep cs = (front, rest) ↔ sep ∉ front ∧ cs = front ++ led sep rest := by
  constructor
  · intro parted
    obtain ⟨absent, whole⟩ | ⟨front', rest', absent, rfl, halves⟩ := cut_spec sep cs
    · rw [whole] at parted
      cases parted
      exact ⟨absent, (List.append_nil _).symm⟩
    · rw [halves] at parted
      cases parted
      exact ⟨absent, rfl⟩
  · rintro ⟨absent, rfl⟩
    cases rest with
    | none => rw [led, List.append_nil, cut_eq_self absent]
    | some rest => exact cut_append absent rest
end ReleaseGate.Text

namespace ReleaseGate

namespace Identifier

/-- Letters, digits and hyphens, at least one. -/
def Word (i : Identifier) : Prop := i ≠ [] ∧ ∀ c ∈ i, c.isAlphanum = true ∨ c = '-'

/-- A word that is no number with a zero in front, except for zero itself. -/
def PreWord (i : Identifier) : Prop :=
  Word i ∧ (isNumber i = true → i.head? = some '0' → i = ['0'])

theorem Word.not_mem {i : Identifier} (word : Word i) {c : Char}
    (other : c.isAlphanum = false) (noHyphen : c ≠ '-') : c ∉ i := by
  intro inside
  obtain plain | hyphen := word.2 c inside
  · rw [other] at plain
    cases plain
  · exact noHyphen hyphen

end Identifier

/-- The first three of some numbers. Those left out are zero. -/
def Core.ofNumbers (numbers : List Nat) : Core :=
  ⟨numbers.getD 0 0, numbers.getD 1 0, numbers.getD 2 0⟩

namespace Version

open Identifier (Word PreWord)

theorem isPadded_iff {cs : List Char} :
    isPadded cs = true ↔ cs.head? = some '0' ∧ cs ≠ ['0'] := by
  unfold isPadded
  split
  · simp
  · rename_i unpadded
    match cs with
    | [] => simp
    | [c] => simp
    | c :: d :: cs =>
      have lead : c ≠ '0' := by
        rintro rfl
        exact unpadded d cs rfl
      simp [lead]

theorem buildIdentifier?_eq_some_iff {cs : List Char} {i : Identifier} :
    buildIdentifier? cs = some i ↔ i = cs ∧ Word i := by
  unfold buildIdentifier? Word
  constructor
  · intro read
    split at read
    · rename_i good
      cases read
      simpa [isIdentifierChar] using good
    · cases read
  · rintro ⟨rfl, filled, all⟩
    rw [if_pos]
    simpa [isIdentifierChar, filled] using all

theorem preIdentifier?_eq_some_iff {cs : List Char} {i : Identifier} :
    preIdentifier? cs = some i ↔ i = cs ∧ PreWord i := by
  unfold preIdentifier? PreWord
  constructor
  · intro read
    split at read
    · cases read
    · rename_i unpadded
      obtain ⟨rfl, word⟩ := buildIdentifier?_eq_some_iff.mp read
      refine ⟨rfl, word, ?_⟩
      intro number zero
      by_contra other
      apply unpadded
      rw [Bool.and_eq_true, isPadded_iff]
      exact ⟨by simpa [isDigits, Identifier.isNumber, word.1] using number, zero, other⟩
  · rintro ⟨rfl, word, unpadded⟩
    rw [if_neg, buildIdentifier?_eq_some_iff]
    · exact ⟨rfl, word⟩
    · intro padded
      rw [Bool.and_eq_true, isPadded_iff, isDigits, Bool.and_eq_true] at padded
      exact padded.2.2 (unpadded padded.1.2 padded.2.1)

theorem mapM_eq_some_iff {one : List Char → Option Identifier} {P : Identifier → Prop}
    (h : ∀ cs i, one cs = some i ↔ i = cs ∧ P i) {parts : List (List Char)}
    {is : List Identifier} : parts.mapM one = some is ↔ is = parts ∧ ∀ i ∈ is, P i := by
  induction parts generalizing is with
  | nil =>
    constructor
    · rintro ⟨⟩
      exact ⟨rfl, by simp⟩
    · rintro ⟨rfl, -⟩
      rfl
  | cons part parts ih =>
    simp only [List.mapM_cons, bind, Option.bind_eq_some_iff, pure, Option.some.injEq, h, ih]
    constructor
    · rintro ⟨i, ⟨rfl, good⟩, _, ⟨rfl, all⟩, rfl⟩
      exact ⟨rfl, List.forall_mem_cons.mpr ⟨good, all⟩⟩
    · rintro ⟨rfl, all⟩
      obtain ⟨good, all⟩ := List.forall_mem_cons.mp all
      exact ⟨part, ⟨rfl, good⟩, parts, ⟨rfl, all⟩, rfl⟩

theorem suffix_eq_nil_iff {sign : Char} {is : List Identifier} : suffix sign is = [] ↔ is = [] := by
  cases is <;> simp [suffix]

/-- The identifiers behind a sign are those that are written behind it. -/
theorem identifiers?_eq_some_iff {one : List Char → Option Identifier} {P : Identifier → Prop}
    (h : ∀ cs i, one cs = some i ↔ i = cs ∧ P i) (whole : ∀ i, P i → '.' ∉ i) (sign : Char)
    {text : Option (List Char)} {is : List Identifier} :
    identifiers? one text = some is ↔ Text.led sign text = suffix sign is ∧ ∀ i ∈ is, P i := by
  cases text with
  | none =>
    have bare : Text.led sign none = [] := rfl
    rw [identifiers?, bare, eq_comm, Option.some_inj, eq_comm (a := []), suffix_eq_nil_iff]
    constructor
    · rintro rfl
      exact ⟨rfl, by simp⟩
    · exact And.left
  | some cs =>
    rw [identifiers?, mapM_eq_some_iff h]
    constructor
    · rintro ⟨rfl, all⟩
      refine ⟨?_, all⟩
      rw [suffix, if_neg (by simpa using Text.pieces_ne_nil cs), Identifier.text,
        Text.intercalate_pieces]
      rfl
    · rintro ⟨written, all⟩
      refine ⟨?_, all⟩
      have identified : is ≠ [] := by
        rintro rfl
        cases written
      rw [suffix, if_neg (by simpa using identified), Text.led] at written
      rw [(List.cons.inj written).2, Identifier.text,
        Text.pieces_intercalate identified fun i member => whole i (all i member)]

theorem sections_eq_iff {cs numbers : List Char} {pre build : Option (List Char)} :
    sections cs = (numbers, pre, build) ↔
      cs = numbers ++ Text.led '-' pre ++ Text.led '+' build ∧
        '-' ∉ numbers ∧ '+' ∉ numbers ++ Text.led '-' pre := by
  have halves : sections cs = (numbers, pre, build) ↔
      ∃ front, Text.cut '+' cs = (front, build) ∧ Text.cut '-' front = (numbers, pre) := by
    simp only [sections, Prod.ext_iff]
    constructor
    · rintro ⟨first, second, third⟩
      exact ⟨_, ⟨rfl, third⟩, first, second⟩
    · rintro ⟨front, ⟨rfl, third⟩, first, second⟩
      exact ⟨first, second, third⟩
  simp only [halves, Text.cut_eq_iff]
  constructor
  · rintro ⟨front, ⟨noPlus, rfl⟩, noHyphen, rfl⟩
    exact ⟨rfl, noHyphen, noPlus⟩
  · rintro ⟨rfl, noHyphen, noPlus⟩
    exact ⟨_, ⟨noPlus, rfl⟩, noHyphen, rfl⟩

theorem isDigits_iff {cs : List Char} :
    isDigits cs = true ↔ cs ≠ [] ∧ ∀ c ∈ cs, c.isDigit = true := by
  simp [isDigits]

/-- A version has the numbers of these parts. -/
structure Numbered (parts : List (List Char)) (core : Core) : Prop where
  digits : ∀ part ∈ parts, isDigits part = true
  core : core = .ofNumbers (parts.map digitsValue)

/-- A version has the numbers of these parts, of which there are one to three, none too large for a
version. -/
structure Figures (parts : List (List Char)) (core : Core) : Prop extends Numbered parts core where
  nonempty : parts ≠ []
  few : parts.length ≤ 3
  small : ∀ part ∈ parts, digitsValue part ≤ maxNumber

/-- All three numbers are there, and none is padded. -/
def Full (parts : List (List Char)) : Prop :=
  parts.length = 3 ∧ ∀ part ∈ parts, isPadded part = false

theorem ne_sign_of_isDigit {c : Char} (h : c.isDigit = true) : c ≠ '-' ∧ c ≠ '+' ∧ c ≠ '.' := by
  refine ⟨?_, ?_, ?_⟩ <;> rintro rfl <;> exact absurd h (by decide)

theorem pieces_of_digits {parts : List (List Char)} (nonempty : parts ≠ [])
    (digits : ∀ part ∈ parts, isDigits part = true) :
    Text.pieces '.' (['.'].intercalate parts) = parts := by
  refine Text.pieces_intercalate nonempty ?_
  intro part member dot
  have digit := (isDigits_iff.mp (digits part member)).2 _ dot
  exact (ne_sign_of_isDigit digit).2.2 rfl

/-- A character of a text whose pieces are numbers is a dot or a digit. -/
theorem dot_or_digit {cs : List Char} (h : ∀ part ∈ Text.pieces '.' cs, isDigits part = true)
    {c : Char} (hc : c ∈ cs) : c = '.' ∨ c.isDigit = true := by
  by_cases dot : c = '.'
  · exact .inl dot
  · obtain ⟨part, hpart, hc⟩ := Text.mem_pieces dot hc
    exact .inr ((isDigits_iff.mp (h part hpart)).2 c hc)

theorem not_mem_of_digits {parts : List (List Char)} (nonempty : parts ≠ [])
    (digits : ∀ part ∈ parts, isDigits part = true) :
    '-' ∉ ['.'].intercalate parts ∧ '+' ∉ ['.'].intercalate parts := by
  rw [← pieces_of_digits nonempty digits] at digits
  constructor
  all_goals
    intro inside
    obtain dot | digit := dot_or_digit digits inside
    · exact absurd dot (by decide)
    · exact absurd digit (by decide)

theorem number?_eq_some_iff {cs : List Char} {n : Nat} :
    number? cs = some n ↔
      isDigits cs = true ∧ isPadded cs = false ∧ digitsValue cs ≤ maxNumber ∧
        digitsValue cs = n := by
  unfold number?
  constructor
  · intro read
    split at read
    · rename_i good
      simp only [Bool.and_eq_true, Bool.not_eq_true', decide_eq_true_eq] at good
      exact ⟨good.1.1, good.1.2, good.2, Option.some.inj read⟩
    · cases read
  · rintro ⟨digits, unpadded, small, rfl⟩
    rw [if_pos (by simp [digits, unpadded, small])]

theorem core?_eq_some_iff {cs : List Char} {core : Core} :
    core? cs = some core ↔
      ∃ parts, cs = ['.'].intercalate parts ∧ Figures parts core ∧ Full parts := by
  constructor
  · intro read
    refine ⟨Text.pieces '.' cs, (Text.intercalate_pieces '.' cs).symm, ?_⟩
    unfold core? at read
    split at read
    · rename_i major minor patch parts
      simp only [bind, Option.bind_eq_some_iff, number?_eq_some_iff] at read
      obtain ⟨_, ⟨digits, full, small, rfl⟩, _, ⟨digits', full', small', rfl⟩, _,
        ⟨digits'', full'', small'', rfl⟩, same⟩ := read
      cases same
      rw [parts]
      refine ⟨⟨⟨?_, rfl⟩, by simp, by simp, ?_⟩, rfl, ?_⟩
      · simp [digits, digits', digits'']
      · simp [small, small', small'']
      · simp [full, full', full'']
    · cases read
  · rintro ⟨parts, rfl, figures, three, full⟩
    rw [core?, pieces_of_digits figures.nonempty figures.digits]
    match parts, three with
    | [major, minor, patch], _ =>
      have read (part : List Char) (member : part ∈ [major, minor, patch]) :
          number? part = some (digitsValue part) :=
        number?_eq_some_iff.mpr
          ⟨figures.digits part member, full part member, figures.small part member, rfl⟩
      simp only [read major (by simp), read minor (by simp), read patch (by simp)]
      rw [figures.core]
      rfl

/-- What the text of a version looks like: numbers between dots, then the pre-release behind a
hyphen and the build metadata behind a plus sign, each of them if there is any. -/
structure Spells (parts : List (List Char)) (cs : List Char) (version : Version) : Prop where
  whole : cs = ['.'].intercalate parts ++ (suffix '-' version.pre ++ suffix '+' version.build)
  figures : Figures parts version.core
  pre : ∀ i ∈ version.pre, PreWord i
  build : ∀ i ∈ version.build, Word i

theorem of_mem_suffix {sign c : Char} {is : List Identifier} (words : ∀ i ∈ is, Word i)
    (h : c ∈ suffix sign is) : c = sign ∨ c = '.' ∨ c = '-' ∨ c.isAlphanum = true := by
  have identified : is ≠ [] := by
    rintro rfl
    cases h
  rw [suffix, if_neg (by simpa using identified), Identifier.text] at h
  obtain rfl | inside := List.mem_cons.mp h
  · exact .inl rfl
  · by_cases dot : c = '.'
    · exact .inr (.inl dot)
    · have undotted : ∀ i ∈ is, '.' ∉ i := fun i member =>
        (words i member).not_mem (by decide) (by decide)
      obtain ⟨i, member, inside⟩ := Text.mem_pieces dot inside
      rw [Text.pieces_intercalate identified undotted] at member
      exact .inr (.inr ((words i member).2 c inside).symm)

theorem exists_led (sign : Char) (is : List Identifier) :
    ∃ text, Text.led sign text = suffix sign is := by
  cases is with
  | nil => exact ⟨none, rfl⟩
  | cons i is => exact ⟨some (Identifier.text (i :: is)), rfl⟩

/-- A strict reading reads the numbers, the pre-release and the build metadata on their own. -/
theorem ofChars?_eq_some_iff_sections {cs : List Char} {version : Version} :
    ofChars? cs = some version ↔ ∃ numbers pre build,
      sections cs = (numbers, pre, build) ∧ core? numbers = some version.core ∧
        identifiers? preIdentifier? pre = some version.pre ∧
        identifiers? buildIdentifier? build = some version.build := by
  simp only [ofChars?, bind, Option.bind_eq_some_iff, pure, Option.some.injEq]
  constructor
  · rintro ⟨core, first, pre, second, build, third, rfl⟩
    exact ⟨_, _, _, rfl, first, second, third⟩
  · rintro ⟨numbers, pre, build, parted, first, second, third⟩
    rw [parted]
    exact ⟨_, first, _, second, _, third, rfl⟩

theorem preRelease?_eq_some_iff {text : Option (List Char)} {is : List Identifier} :
    identifiers? preIdentifier? text = some is ↔
      Text.led '-' text = suffix '-' is ∧ ∀ i ∈ is, PreWord i :=
  identifiers?_eq_some_iff (fun _ _ => preIdentifier?_eq_some_iff)
    (fun _ word => word.1.not_mem (by decide) (by decide)) '-'

theorem buildMetadata?_eq_some_iff {text : Option (List Char)} {is : List Identifier} :
    identifiers? buildIdentifier? text = some is ↔
      Text.led '+' text = suffix '+' is ∧ ∀ i ∈ is, Word i :=
  identifiers?_eq_some_iff (fun _ _ => buildIdentifier?_eq_some_iff)
    (fun _ word => word.not_mem (by decide) (by decide)) '+'

/-- In strict form a version has all its numbers, without padding. -/
theorem ofChars?_eq_some_iff {cs : List Char} {version : Version} :
    ofChars? cs = some version ↔ ∃ parts, Spells parts cs version ∧ Full parts := by
  simp only [ofChars?_eq_some_iff_sections, sections_eq_iff, core?_eq_some_iff,
    preRelease?_eq_some_iff, buildMetadata?_eq_some_iff]
  constructor
  · rintro ⟨_, pre, build, ⟨rfl, -, -⟩, ⟨parts, rfl, figures, full⟩, ⟨written, words⟩,
      ⟨written', words'⟩⟩
    rw [written, written', List.append_assoc]
    exact ⟨parts, ⟨rfl, figures, words, words'⟩, full⟩
  · rintro ⟨parts, ⟨rfl, figures, words, words'⟩, full⟩
    obtain ⟨pre, written⟩ := exists_led '-' version.pre
    obtain ⟨build, written'⟩ := exists_led '+' version.build
    obtain ⟨noHyphen, noPlus⟩ := not_mem_of_digits figures.nonempty figures.digits
    have noPlus' : '+' ∉ ['.'].intercalate parts ++ Text.led '-' pre := by
      rw [written, List.mem_append, not_or]
      refine ⟨noPlus, fun inside => ?_⟩
      exact absurd (of_mem_suffix (fun i member => (words i member).1) inside) (by decide)
    refine ⟨_, pre, build, ⟨?_, noHyphen, noPlus'⟩, ⟨parts, rfl, figures, full⟩,
      ⟨written, words⟩, ⟨written', words'⟩⟩
    rw [written, written', List.append_assoc]
end Version

end ReleaseGate
