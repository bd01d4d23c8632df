import Mathlib.Data.List.GetD
import Mathlib.Data.List.TakeDrop
import Mathlib.Data.List.TakeWhile
import ReleaseGate.Proofs.Strict

/-! Which texts are versions, and which version each of them is. -/

namespace ReleaseGate.Text

theorem exists_dropEndWhile_append (p : Char → Bool) (cs : List Char) :
    ∃ last, cs = dropEndWhile p cs ++ last ∧ ∀ c ∈ last, p c = true := by
  refine ⟨(cs.reverse.takeWhile p).reverse, ?_, ?_⟩
  · unfold dropEndWhile
    rw [← List.reverse_append, List.takeWhile_append_dropWhile, List.reverse_reverse]
  · intro c hc
    exact List.mem_takeWhile_imp (List.mem_reverse.mp hc)

/-- Only blanks are trimmed off. -/
theorem exists_blanks_trimmed (cs : List Char) :
    ∃ before after, cs = before ++ (trimmed cs ++ after) ∧
      (∀ c ∈ before, isBlank c = true) ∧ ∀ c ∈ after, isBlank c = true := by
  obtain ⟨after, split, blank⟩ := exists_dropEndWhile_append isBlank (cs.dropWhile isBlank)
  refine ⟨cs.takeWhile isBlank, after, ?_, fun c hc => List.mem_takeWhile_imp hc, blank⟩
  rw [trimmed, ← split, List.takeWhile_append_dropWhile]

theorem dropWhile_append_of_neg {p : Char → Bool} {cs : List Char} (filled : cs ≠ [])
    (h : ∀ c ∈ cs, p c = false) (rest : List Char) : (cs ++ rest).dropWhile p = cs ++ rest := by
  cases cs with
  | nil => contradiction
  | cons c cs =>
    rw [List.cons_append, List.dropWhile_cons, h c List.mem_cons_self]
    rfl

/-- All blanks at the ends are trimmed off. -/
theorem trimmed_between {before cs after : List Char} (first : ∀ c ∈ before, isBlank c = true)
    (h : ∀ c ∈ cs, isBlank c = false) (last : ∀ c ∈ after, isBlank c = true) :
    trimmed (before ++ (cs ++ after)) = cs := by
  have last' : ∀ c ∈ after.reverse, isBlank c = true := fun c hc => last c (List.mem_reverse.mp hc)
  unfold trimmed
  rw [List.dropWhile_append_of_pos first]
  by_cases empty : cs = []
  · have gone : after.dropWhile isBlank = [] := by
      rw [← List.append_nil after, List.dropWhile_append_of_pos last, List.dropWhile_nil]
    rw [empty, List.nil_append, gone]
    rfl
  · have h' : ∀ c ∈ cs.reverse, isBlank c = false := fun c hc => h c (List.mem_reverse.mp hc)
    have kept := dropWhile_append_of_neg (by simpa using empty) h' []
    rw [List.append_nil] at kept
    rw [dropWhile_append_of_neg empty h, dropEndWhile, List.reverse_append,
      List.dropWhile_append_of_pos last', kept, List.reverse_reverse]

end ReleaseGate.Text
namespace ReleaseGate.Version

open Identifier (Word PreWord)

/-- A character that does not end the numbers of a text. -/
def isPlain (c : Char) : Bool := c != '-' && c != '+'

theorem front_eq (cs : List Char) : front cs = (cs.takeWhile isPlain, cs.dropWhile isPlain) :=
  List.span_eq_takeWhile_dropWhile _ cs

theorem front_fst_append_snd (cs : List Char) : (front cs).1 ++ (front cs).2 = cs := by
  rw [front_eq, List.takeWhile_append_dropWhile]

theorem head?_front_snd (cs : List Char) : ∀ c ∈ (front cs).2.head?, isPlain c = false := by
  intro c head
  rw [front_eq] at head
  have stops := List.head?_dropWhile_not isPlain cs
  rw [Option.mem_def.mp head] at stops
  simpa using stops

/-- The numbers of a text end where what follows them begins with a sign. -/
theorem front_append {numbers rest : List Char} (plain : '-' ∉ numbers ∧ '+' ∉ numbers)
    (signed : ∀ c ∈ rest.head?, isPlain c = false) : front (numbers ++ rest) = (numbers, rest) := by
  have all : ∀ c ∈ numbers, isPlain c = true := by
    intro c member
    have noHyphen : c ≠ '-' := fun same => plain.1 (same ▸ member)
    have noPlus : c ≠ '+' := fun same => plain.2 (same ▸ member)
    simp [isPlain, noHyphen, noPlus]
  rw [front_eq, List.takeWhile_append_of_pos all, List.dropWhile_append_of_pos all]
  cases rest with
  | nil => simp
  | cons c rest =>
    have sign := signed c rfl
    simp [sign]

theorem suffix_signed (sign : Char) (is : List Identifier) :
    suffix sign is = [] ∨ ∃ rest, suffix sign is = sign :: rest := by
  cases is with
  | nil => exact .inl rfl
  | cons i is => exact .inr ⟨_, rfl⟩

theorem head?_suffixes (version : Version) :
    ∀ c ∈ (suffix '-' version.pre ++ suffix '+' version.build).head?, isPlain c = false := by
  obtain none | ⟨rest, written⟩ := suffix_signed '-' version.pre
  · obtain none' | ⟨rest, written⟩ := suffix_signed '+' version.build
    · simp [none, none']
    · simp [none, written, isPlain]
  · simp [written, isPlain]

theorem Spells.front_eq {parts : List (List Char)} {cs : List Char} {version : Version}
    (spells : Spells parts cs version) :
    front cs = (['.'].intercalate parts, suffix '-' version.pre ++ suffix '+' version.build) := by
  rw [spells.whole]
  have figures := spells.figures
  exact front_append (not_mem_of_digits figures.nonempty figures.digits) (head?_suffixes version)

/-- The parts of a version stand in its text. -/
theorem Spells.parts_eq {parts : List (List Char)} {cs : List Char} {version : Version}
    (spells : Spells parts cs version) : Text.pieces '.' (front cs).1 = parts := by
  have figures := spells.figures
  rw [spells.front_eq, pieces_of_digits figures.nonempty figures.digits]

theorem unpadded_zero (cs : List Char) : unpadded ('0' :: cs) = unpadded cs := by
  simp [unpadded]

theorem unpadded_eq_self {c : Char} (h : c ≠ '0') (cs : List Char) :
    unpadded (c :: cs) = c :: cs := by
  simp [unpadded, h]

theorem digitsValue_unpadded (cs : List Char) : digitsValue (unpadded cs) = digitsValue cs := by
  induction cs with
  | nil => rfl
  | cons c cs ih =>
    by_cases zero : c = '0'
    · subst zero
      rw [unpadded_zero, ih]
      rfl
    · rw [unpadded_eq_self zero]

theorem isDigits_unpadded {cs : List Char} (h : cs.all Char.isDigit = true) :
    isDigits (unpadded cs) = true := by
  induction cs with
  | nil => decide
  | cons c cs ih =>
    by_cases zero : c = '0'
    · subst zero
      rw [unpadded_zero]
      exact ih (by simpa using h)
    · rw [unpadded_eq_self zero, isDigits, h]
      rfl

theorem isPadded_unpadded (cs : List Char) : isPadded (unpadded cs) = false := by
  induction cs with
  | nil => rfl
  | cons c cs ih =>
    by_cases zero : c = '0'
    · subst zero
      rw [unpadded_zero]
      exact ih
    · rw [unpadded_eq_self zero, Bool.eq_false_iff, ne_eq, isPadded_iff]
      simp [zero]

theorem ofNumbers_append_zeros (numbers : List Nat) (n : Nat) :
    Core.ofNumbers (numbers ++ List.replicate n 0) = .ofNumbers numbers := by
  have zeros (i : Nat) : (numbers ++ List.replicate n 0).getD i 0 = numbers.getD i 0 := by
    by_cases inside : i < numbers.length
    · rw [List.getD_append _ _ _ _ inside]
    · rw [List.getD_append_right _ _ _ _ (by omega), List.getD_eq_default numbers 0 (by omega)]
      simp only [List.getD_eq_getElem?_getD, List.getElem?_replicate]
      split <;> rfl
  simp only [Core.ofNumbers, zeros]

/-- Three parts without padding; those left out are zero. -/
def fill (parts : List (List Char)) : List (List Char) :=
  parts.map unpadded ++ List.replicate (3 - parts.length) ['0']

theorem mem_fill {parts : List (List Char)} {part : List Char} (h : part ∈ fill parts) :
    (∃ padded ∈ parts, part = unpadded padded) ∨ part = ['0'] := by
  obtain there | added := List.mem_append.mp h
  · obtain ⟨padded, member, same⟩ := List.mem_map.mp there
    exact .inl ⟨padded, member, same.symm⟩
  · exact .inr (List.eq_of_mem_replicate added)

theorem isDigits_of_mem_fill {parts : List (List Char)}
    (digits : ∀ part ∈ parts, isDigits part = true) :
    ∀ part ∈ fill parts, isDigits part = true := by
  intro part member
  obtain ⟨padded, there, rfl⟩ | rfl := mem_fill member
  · have all := digits padded there
    rw [isDigits, Bool.and_eq_true] at all
    exact isDigits_unpadded all.2
  · rfl

theorem full_fill {parts : List (List Char)} (few : parts.length ≤ 3) : Full (fill parts) := by
  constructor
  · rw [fill, List.length_append, List.length_map, List.length_replicate]
    omega
  · intro part member
    obtain ⟨padded, -, rfl⟩ | rfl := mem_fill member
    · exact isPadded_unpadded padded
    · rfl

theorem fill_ne_nil {parts : List (List Char)} (few : parts.length ≤ 3) : fill parts ≠ [] := by
  have three := (full_fill few).1
  intro empty
  rw [empty] at three
  cases three

theorem values_fill (parts : List (List Char)) :
    (fill parts).map digitsValue =
      parts.map digitsValue ++ List.replicate (3 - parts.length) 0 := by
  have values : digitsValue ∘ unpadded = digitsValue := funext digitsValue_unpadded
  rw [fill, List.map_append, List.map_map, List.map_replicate, values]
  rfl

/-- Filling in changes no number. -/
theorem figures_fill_iff {parts : List (List Char)} {core : Core} (nonempty : parts ≠ [])
    (few : parts.length ≤ 3) (digits : ∀ part ∈ parts, isDigits part = true) :
    Figures (fill parts) core ↔ Figures parts core := by
  have same : Core.ofNumbers ((fill parts).map digitsValue) =
      .ofNumbers (parts.map digitsValue) := by
    rw [values_fill, ofNumbers_append_zeros]
  constructor
  · intro figures
    refine ⟨⟨digits, figures.core.trans same⟩, nonempty, few, ?_⟩
    intro part member
    have filled : unpadded part ∈ fill parts :=
      List.mem_append_left _ (List.mem_map_of_mem member)
    rw [← digitsValue_unpadded]
    exact figures.small _ filled
  · intro figures
    refine ⟨⟨isDigits_of_mem_fill digits, figures.core.trans same.symm⟩, fill_ne_nil few,
      (full_fill few).1.le, ?_⟩
    intro part member
    obtain ⟨padded, there, rfl⟩ | rfl := mem_fill member
    · rw [digitsValue_unpadded]
      exact figures.small padded there
    · decide

theorem spells_fill_iff {parts : List (List Char)} {rest : List Char} {version : Version}
    (nonempty : parts ≠ []) (few : parts.length ≤ 3)
    (digits : ∀ part ∈ parts, isDigits part = true) :
    Spells (fill parts) (['.'].intercalate (fill parts) ++ rest) version ↔
      Spells parts (['.'].intercalate parts ++ rest) version := by
  constructor
  · intro spells
    have same := List.append_cancel_left spells.whole
    exact ⟨by rw [same], (figures_fill_iff nonempty few digits).mp spells.figures, spells.pre,
      spells.build⟩
  · intro spells
    have same := List.append_cancel_left spells.whole
    exact ⟨by rw [same], (figures_fill_iff nonempty few digits).mpr spells.figures, spells.pre,
      spells.build⟩

theorem filled?_eq_some_iff {numbers filled : List Char} :
    filled? numbers = some filled ↔ (Text.pieces '.' numbers).length ≤ 3 ∧
      (∀ part ∈ Text.pieces '.' numbers, isDigits part = true) ∧
      ['.'].intercalate (fill (Text.pieces '.' numbers)) = filled := by
  unfold filled?
  constructor
  · intro read
    simp only at read
    split at read
    · rename_i good
      simp only [Bool.and_eq_true, decide_eq_true_eq, List.all_eq_true] at good
      exact ⟨good.1, good.2, Option.some.inj read⟩
    · cases read
  · rintro ⟨few, digits, rfl⟩
    simp only
    rw [if_pos]
    · rfl
    · rw [Bool.and_eq_true, decide_eq_true_eq, List.all_eq_true]
      exact ⟨few, digits⟩

/-- A version whose numbers are filled in before it is read. -/
def padded? (cs : List Char) : Option Version := do
  let filled ← filled? (front cs).1
  ofChars? (filled ++ (front cs).2)

/-- With its numbers filled in a text is read as the version that it spells. -/
theorem padded?_eq_some_iff {cs : List Char} {version : Version} :
    padded? cs = some version ↔ ∃ parts, Spells parts cs version := by
  constructor
  · intro read
    simp only [padded?, bind, Option.bind_eq_some_iff, filled?_eq_some_iff,
      ofChars?_eq_some_iff] at read
    obtain ⟨_, ⟨few, digits, rfl⟩, parts, spells, -⟩ := read
    have digits' := isDigits_of_mem_fill digits
    have nonempty := fill_ne_nil few
    -- What was filled in ends where the text goes on, so that no other numbers are read.
    have same : fill (Text.pieces '.' (front cs).1) = parts := by
      rw [← spells.parts_eq,
        front_append (not_mem_of_digits nonempty digits') (head?_front_snd cs),
        pieces_of_digits nonempty digits']
    rw [← same, spells_fill_iff (Text.pieces_ne_nil _) few digits, Text.intercalate_pieces,
      front_fst_append_snd] at spells
    exact ⟨_, spells⟩
  · rintro ⟨parts, spells⟩
    have figures := spells.figures
    have read : filled? (['.'].intercalate parts) = some (['.'].intercalate (fill parts)) := by
      rw [filled?_eq_some_iff, pieces_of_digits figures.nonempty figures.digits]
      exact ⟨figures.few, figures.digits, rfl⟩
    have filledIn := spells
    rw [spells.whole, ← spells_fill_iff figures.nonempty figures.few figures.digits] at filledIn
    rw [padded?, spells.front_eq, read]
    exact ofChars?_eq_some_iff.mpr ⟨_, filledIn, full_fill figures.few⟩

/-- What is read in strict form is read the same with its numbers filled in. -/
theorem padded?_of_ofChars? {cs : List Char} {version : Version}
    (h : ofChars? cs = some version) : padded? cs = some version := by
  obtain ⟨parts, spells, -⟩ := ofChars?_eq_some_iff.mp h
  exact padded?_eq_some_iff.mpr ⟨parts, spells⟩

theorem lenient?_eq (s : String) : lenient? s = (ofChars? (bare s)).or (padded? (bare s)) := by
  unfold lenient?
  simp only
  cases ofChars? (bare s) <;> rfl

theorem lenient?_eq_padded? (s : String) : lenient? s = padded? (bare s) := by
  rw [lenient?_eq]
  cases strict : ofChars? (bare s) with
  | none => rfl
  | some version => rw [padded?_of_ofChars? strict, Option.some_or]

theorem not_isAlphanum_of_isBlank {c : Char} (h : Text.isBlank c = true) :
    c.isAlphanum = false := by
  simp only [Text.isBlank, Bool.or_eq_true, Bool.and_eq_true, decide_eq_true_eq, beq_iff_eq] at h
  have upper : c.isUpper = false := by
    refine decide_eq_false ?_
    change ¬ (65 ≤ c.toNat ∧ c.toNat ≤ 90)
    omega
  have lower : c.isLower = false := by
    refine Bool.and_eq_false_iff.mpr ?_
    rw [decide_eq_false_iff_not, decide_eq_false_iff_not]
    change ¬ 97 ≤ c.toNat ∨ ¬ c.toNat ≤ 122
    omega
  have digit : c.isDigit = false := by
    rw [Bool.eq_false_iff, ne_eq, Char.isDigit_iff_toNat]
    change ¬ (48 ≤ c.toNat ∧ c.toNat ≤ 57)
    omega
  change ((c.isUpper || c.isLower) || c.isDigit) = false
  rw [upper, lower, digit]
  rfl

variable {parts : List (List Char)} {cs : List Char} {version : Version}

theorem Spells.dot_or_digit (spells : Spells parts cs version) {c : Char}
    (h : c ∈ ['.'].intercalate parts) : c = '.' ∨ c.isDigit = true := by
  have figures := spells.figures
  refine Version.dot_or_digit ?_ h
  rw [pieces_of_digits figures.nonempty figures.digits]
  exact figures.digits

theorem Spells.not_isBlank (spells : Spells parts cs version) :
    ∀ c ∈ cs, Text.isBlank c = false := by
  intro c inside
  have sign : c = '.' ∨ c = '-' ∨ c = '+' ∨ c.isAlphanum = true := by
    rw [spells.whole] at inside
    obtain inside | inside := List.mem_append.mp inside
    · obtain dot | digit := spells.dot_or_digit inside
      · exact .inl dot
      · exact .inr (.inr (.inr (by simp [Char.isAlphanum, digit])))
    · obtain inside | inside := List.mem_append.mp inside
      · have := of_mem_suffix (fun i member => (spells.pre i member).1) inside
        tauto
      · have := of_mem_suffix spells.build inside
        tauto
  obtain rfl | rfl | rfl | plain := sign
  · rfl
  · rfl
  · rfl
  · rw [Bool.eq_false_iff]
    intro blank
    rw [not_isAlphanum_of_isBlank blank] at plain
    cases plain

/-- No version begins with a `v`. -/
theorem Spells.not_led (spells : Spells parts cs version) (rest : List Char) :
    cs ≠ 'v' :: rest := by
  rintro rfl
  have numbers := congrArg Prod.fst spells.front_eq
  rw [Version.front_eq] at numbers
  simp only at numbers
  rw [List.takeWhile_cons_of_pos (by decide)] at numbers
  have inside : 'v' ∈ ['.'].intercalate parts := by
    rw [← numbers]
    exact List.mem_cons_self
  obtain dot | digit := spells.dot_or_digit inside
  · exact absurd dot (by decide)
  · exact absurd digit (by decide)

/-- A text says a version: it is the text of one between blanks, and perhaps with a `v` in front. -/
def Says (s : String) (version : Version) : Prop :=
  ∃ before lead parts cs after, s.toList = before ++ (lead ++ cs ++ after) ∧
    Spells parts cs version ∧ (lead = [] ∨ lead = ['v']) ∧
    (∀ c ∈ before, Text.isBlank c = true) ∧ ∀ c ∈ after, Text.isBlank c = true

theorem exists_lead (s : String) :
    ∃ lead, (lead = [] ∨ lead = ['v']) ∧ Text.trimmed s.toList = lead ++ bare s := by
  unfold bare
  split
  · rename_i cs led
    exact ⟨['v'], .inr rfl, led⟩
  · exact ⟨[], .inl rfl, rfl⟩

theorem bare_eq_of_trimmed {s : String} {lead : List Char} (spells : Spells parts cs version)
    (h : lead = [] ∨ lead = ['v']) (trimmed : Text.trimmed s.toList = lead ++ cs) :
    bare s = cs := by
  unfold bare
  rw [trimmed]
  obtain rfl | rfl := h
  · rw [List.nil_append]
    split
    · rename_i rest
      exact absurd rfl (spells.not_led rest)
    · rfl
  · rfl

/-- Exactly the texts that say a version are read, each as the version that it says. -/
theorem lenient?_eq_some_iff {s : String} : lenient? s = some version ↔ Says s version := by
  rw [lenient?_eq_padded?, padded?_eq_some_iff]
  constructor
  · rintro ⟨parts, spells⟩
    obtain ⟨before, after, whole, first, last⟩ := Text.exists_blanks_trimmed s.toList
    obtain ⟨lead, mark, trimmed⟩ := exists_lead s
    rw [trimmed] at whole
    exact ⟨before, lead, parts, bare s, after, whole, spells, mark, first, last⟩
  · rintro ⟨before, lead, parts, cs, after, whole, spells, mark, first, last⟩
    have filled : ∀ c ∈ lead ++ cs, Text.isBlank c = false := by
      intro c inside
      obtain inside | inside := List.mem_append.mp inside
      · obtain rfl | rfl := mark
        · cases inside
        · obtain rfl := List.mem_singleton.mp inside
          rfl
      · exact spells.not_isBlank c inside
    have trimmed : Text.trimmed s.toList = lead ++ cs := by
      rw [whole]
      exact Text.trimmed_between first filled last
    rw [bare_eq_of_trimmed spells mark trimmed]
    exact ⟨parts, spells⟩

theorem digitsValue_toDigits (n : Nat) : digitsValue (Nat.toDigits 10 n) = n := by
  have value : digitsValue (Nat.toDigits 10 n) = Nat.ofDigitChars 10 (Nat.toDigits 10 n) 0 :=
    Nat.ofDigitChars_eq_foldl.symm
  rw [value, Nat.ofDigitChars_ten_toDigits]

theorem isDigits_toDigits (n : Nat) : isDigits (Nat.toDigits 10 n) = true :=
  isDigits_iff.mpr ⟨Nat.toDigits_ne_nil, fun _ inside =>
    Nat.isDigit_of_mem_toDigits (by decide) (by decide) inside⟩

theorem Figures.small_core {core : Core} (figures : Figures parts core) :
    core.major ≤ maxNumber ∧ core.minor ≤ maxNumber ∧ core.patch ≤ maxNumber := by
  have small (i : Nat) : (parts.map digitsValue).getD i 0 ≤ maxNumber := by
    rw [List.getD_eq_getElem?_getD]
    cases found : (parts.map digitsValue)[i]? with
    | none => exact Nat.zero_le _
    | some n =>
      obtain ⟨part, member, rfl⟩ := List.mem_map.mp (List.mem_of_getElem? found)
      exact figures.small part member
  rw [figures.core]
  exact ⟨small 0, small 1, small 2⟩

/-- The numbers of a version as they are printed. -/
theorem Figures.printed {core : Core} (figures : Figures parts core) : Figures core.parts core := by
  obtain ⟨major, minor, patch⟩ := figures.small_core
  refine ⟨⟨?_, ?_⟩, by simp [Core.parts], by simp [Core.parts], ?_⟩
  · simp [Core.parts, isDigits_toDigits]
  · simp [Core.parts, digitsValue_toDigits, Core.ofNumbers]
  · simp [Core.parts, digitsValue_toDigits, major, minor, patch]

/-- A version that was read is read again from its own text. -/
theorem lenient?_text {s : String} (h : lenient? s = some version) :
    lenient? version.text = some version := by
  obtain ⟨-, -, parts, cs, -, -, spells, -⟩ := lenient?_eq_some_iff.mp h
  have printed : Spells version.core.parts version.chars version :=
    ⟨List.append_assoc _ _ _, spells.figures.printed, spells.pre, spells.build⟩
  refine lenient?_eq_some_iff.mpr
    ⟨[], [], version.core.parts, version.chars, [], ?_, printed, .inl rfl, by simp, by simp⟩
  rw [text, String.toList_ofList]
  simp

/-- A text is read as a version exactly if it says that version. Reading the text as it stands
first, and filling in its numbers only if that fails, comes to the same as filling them in at once.
What is read is read again from its own text. -/
theorem lenient_grammar :
    (∀ s version, lenient? s = some version ↔ Says s version) ∧
      (∀ s, lenient? s = (ofChars? (bare s)).or (padded? (bare s))) ∧
      (∀ cs version, ofChars? cs = some version → padded? cs = some version) ∧
      ∀ s version, lenient? s = some version → lenient? version.text = some version :=
  ⟨fun _ _ => lenient?_eq_some_iff, lenient?_eq, fun _ _ => padded?_of_ofChars?,
    fun _ _ => lenient?_text⟩

/-- A padded version with a pre-release, and the text that it is printed as. -/
theorem lenient_padded_prerelease :
    lenient? " v1.02-rc.1 " = some ⟨⟨1, 2, 0⟩, ["rc".toList, ['1']], []⟩ ∧
      lenient? "1.2.0-rc.1" = some ⟨⟨1, 2, 0⟩, ["rc".toList, ['1']], []⟩ := by
  have read : lenient? " v1.02-rc.1 " = some ⟨⟨1, 2, 0⟩, ["rc".toList, ['1']], []⟩ := by decide
  have printed : text ⟨⟨1, 2, 0⟩, ["rc".toList, ['1']], []⟩ = "1.2.0-rc.1" := by decide
  have again := lenient_grammar.2.2.2 _ _ read
  rw [printed] at again
  exact ⟨read, again⟩

end ReleaseGate.Version
