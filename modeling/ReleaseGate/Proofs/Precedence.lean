import ReleaseGate.Proofs.Bytes
import ReleaseGate.Proofs.Grammar
import ReleaseGate.Proofs.Order

/-! Which of two versions comes first, told by the values of their numbers, and how a listing is
sorted by it. -/

namespace ReleaseGate

open Std (LawfulEqCmp LawfulEqOrd OrientedCmp OrientedOrd TransCmp)

namespace Version

/-- The value of some digits and one more. -/
def shiftIn (n : Nat) (c : Char) : Nat := 10 * n + (c.toNat - 48)

theorem compare_shiftIn {c d : Char} (digit : c.isDigit = true) (digit' : d.isDigit = true)
    (n m : Nat) : compare (shiftIn n c) (shiftIn m d) = (compare n m).then (compare c d) := by
  have range : 48 ≤ c.toNat ∧ c.toNat ≤ 57 := Char.isDigit_iff_toNat.mp digit
  have range' : 48 ≤ d.toNat ∧ d.toNat ≤ 57 := Char.isDigit_iff_toNat.mp digit'
  unfold shiftIn
  obtain less | same | more := Nat.lt_trichotomy n m
  · have first : compare n m = .lt := compare_lt_iff_lt.mpr less
    rw [first, Ordering.lt_then, compare_lt_iff_lt]
    omega
  · subst same
    have first : compare n n = .eq := compare_eq_iff_eq.mpr rfl
    rw [first, Ordering.eq_then]
    obtain less | same | more := Nat.lt_trichotomy c.toNat d.toNat
    · rw [Text.compare_char_of_lt less, compare_lt_iff_lt]
      omega
    · obtain rfl := Char.toNat_inj.mp same
      rw [compare_eq_iff_eq.mpr rfl, LawfulEqOrd.compare_eq_iff_eq.mpr rfl]
    · rw [OrientedOrd.eq_swap (a := c), Text.compare_char_of_lt more, Ordering.swap_lt,
        compare_gt_iff_gt]
      omega
  · have first : compare n m = .gt := compare_gt_iff_gt.mpr more
    rw [first, Ordering.gt_then, compare_gt_iff_gt]
    omega

theorem compare_foldl_shiftIn {as bs : List Char} (digits : ∀ c ∈ as, c.isDigit = true)
    (digits' : ∀ c ∈ bs, c.isDigit = true) (same : as.length = bs.length) (n m : Nat) :
    compare (as.foldl shiftIn n) (bs.foldl shiftIn m) = (compare n m).then (compare as bs) := by
  induction as generalizing bs n m with
  | nil =>
    cases bs with
    | nil => exact Ordering.then_eq.symm
    | cons d bs => cases same
  | cons c as ih =>
    cases bs with
    | nil => cases same
    | cons d bs =>
      obtain ⟨digit, digits⟩ := List.forall_mem_cons.mp digits
      obtain ⟨digit', digits'⟩ := List.forall_mem_cons.mp digits'
      rw [List.foldl_cons, List.foldl_cons, ih digits digits' (Nat.succ.inj same),
        compare_shiftIn digit digit', List.compare_cons_cons, Ordering.then_assoc]

/-- Numbers of the same length compare as their digits do. -/
theorem compare_digitsValue {as bs : List Char} (digits : ∀ c ∈ as, c.isDigit = true)
    (digits' : ∀ c ∈ bs, c.isDigit = true) (same : as.length = bs.length) :
    compare (digitsValue as) (digitsValue bs) = compare as bs :=
  compare_foldl_shiftIn digits digits' same 0 0

theorem digitsValue_padded (n : Nat) (cs : List Char) :
    digitsValue (List.replicate n '0' ++ cs) = digitsValue cs := by
  induction n with
  | zero => rfl
  | succ n ih => exact ih

/-- A longer number is larger, unless it is padded. -/
theorem digitsValue_lt {as bs : List Char} (digits : ∀ c ∈ as, c.isDigit = true)
    (digits' : ∀ c ∈ bs, c.isDigit = true) (unpadded : bs.head? ≠ some '0')
    (longer : as.length < bs.length) : digitsValue as < digitsValue bs := by
  cases bs with
  | nil => cases longer
  | cons d bs =>
    -- The shorter number is padded to the length of the longer one.
    obtain ⟨n, length⟩ := Nat.exists_eq_add_of_lt longer
    have filled : ∀ c ∈ List.replicate (n + 1) '0' ++ as, c.isDigit = true := by
      intro c member
      obtain zero | there := List.mem_append.mp member
      · rw [List.eq_of_mem_replicate zero]
        rfl
      · exact digits c there
    have same : (List.replicate (n + 1) '0' ++ as).length = (d :: bs).length := by
      rw [List.length_append, List.length_replicate, length]
      omega
    have order := compare_digitsValue filled digits' same
    have least : '0' < d := by
      have range : 48 ≤ d.toNat ∧ d.toNat ≤ 57 :=
        Char.isDigit_iff_toNat.mp (digits' d List.mem_cons_self)
      have other : d.toNat ≠ 48 := fun zero => unpadded (congrArg some (Char.toNat_inj.mp zero))
      change 48 < d.toNat
      omega
    rw [digitsValue_padded, List.replicate_succ, List.cons_append, List.compare_cons_cons,
      Text.compare_char_of_lt least] at order
    exact compare_lt_iff_lt.mp order

/-- Numbers compare by their lengths and then by their digits, if no longer one is padded. -/
theorem compare_length_then_compare {as bs : List Char} (digits : ∀ c ∈ as, c.isDigit = true)
    (digits' : ∀ c ∈ bs, c.isDigit = true) (lead : as.head? = some '0' → as.length ≤ bs.length)
    (lead' : bs.head? = some '0' → bs.length ≤ as.length) :
    (compare as.length bs.length).then (compare as bs) =
      compare (digitsValue as) (digitsValue bs) := by
  obtain less | same | more := Nat.lt_trichotomy as.length bs.length
  · have unpadded : bs.head? ≠ some '0' := fun zero => absurd (lead' zero) (by omega)
    rw [compare_lt_iff_lt.mpr less,
      compare_lt_iff_lt.mpr (digitsValue_lt digits digits' unpadded less)]
    rfl
  · rw [compare_eq_iff_eq.mpr same, compare_digitsValue digits digits' same]
    rfl
  · have unpadded : as.head? ≠ some '0' := fun zero => absurd (lead zero) (by omega)
    rw [compare_gt_iff_gt.mpr more,
      compare_gt_iff_gt.mpr (digitsValue_lt digits' digits unpadded more)]
    rfl

end Version

namespace Identifier

open Version (digitsValue)

theorem isNumber_iff {i : Identifier} : isNumber i = true ↔ ∀ c ∈ i, c.isDigit = true :=
  List.all_eq_true

/-- Among the identifiers of a pre-release the numbers compare by value. -/
theorem preOrder_of_numbers {a b : Identifier} (word : PreWord a) (word' : PreWord b)
    (number : isNumber a = true) (number' : isNumber b = true) :
    preOrder a b = compare (digitsValue a) (digitsValue b) := by
  have short {i j : Identifier} (word : PreWord i) (number : isNumber i = true)
      (filled : j ≠ []) (zero : i.head? = some '0') : i.length ≤ j.length := by
    rw [word.2 number zero]
    exact List.length_pos_iff.mpr filled
  unfold preOrder
  rw [number, number']
  exact Version.compare_length_then_compare (isNumber_iff.mp number) (isNumber_iff.mp number')
    (short word number word'.1.1) (short word' number' word.1.1)

theorem head?_dropWhile_zero (cs : List Char) : (cs.dropWhile (· == '0')).head? ≠ some '0' := by
  intro zero
  have stops := List.head?_dropWhile_not (· == '0') cs
  rw [zero] at stops
  cases stops

theorem digitsValue_dropWhile (cs : List Char) :
    digitsValue (cs.dropWhile (· == '0')) = digitsValue cs := by
  induction cs with
  | nil => rfl
  | cons c cs ih =>
    by_cases zero : c = '0'
    · subst zero
      exact ih
    · rw [List.dropWhile_cons_of_neg (by simpa using zero)]

/-- Numbers compare by value, and by their padding where the value is the same. -/
theorem buildOrder_of_numbers {a b : Identifier} (number : isNumber a = true)
    (number' : isNumber b = true) : buildOrder a b =
      (compare (digitsValue a) (digitsValue b)).then (compare a.length b.length) := by
  have value := Version.compare_length_then_compare
    (fun c member => isNumber_iff.mp number c ((List.dropWhile_sublist _).mem member))
    (fun c member => isNumber_iff.mp number' c ((List.dropWhile_sublist _).mem member))
    (fun zero => absurd zero (head?_dropWhile_zero a))
    (fun zero => absurd zero (head?_dropWhile_zero b))
  rw [digitsValue_dropWhile, digitsValue_dropWhile] at value
  rw [← value, Ordering.then_assoc]
  unfold buildOrder
  rw [number, number']

instance : LawfulEqCmp preOrder where
  eq_of_compare := by
    intro a b same
    rw [preOrder_eq, compareLex_eq_eq, compareLex_eq_eq] at same
    exact LawfulEqCmp.eq_of_compare same.2.2

/-- A number is its padding and then its digits. -/
theorem padding_append_digits {i : Identifier} (number : isNumber i = true) :
    i = List.replicate (i.length - (digits i).length) '0' ++ digits i := by
  have split : i.takeWhile (· == '0') ++ digits i = i := by
    rw [digits, if_pos number, List.takeWhile_append_dropWhile]
  have zeros : i.takeWhile (· == '0') = List.replicate (i.takeWhile (· == '0')).length '0' := by
    refine List.eq_replicate_iff.mpr ⟨rfl, ?_⟩
    intro c member
    simpa using List.mem_takeWhile_imp member
  have length : (i.takeWhile (· == '0')).length = i.length - (digits i).length := by
    have whole := congrArg List.length split
    rw [List.length_append] at whole
    omega
  rw [← length, ← zeros, split]

instance : LawfulEqCmp buildOrder where
  eq_of_compare := by
    intro a b same
    rw [buildOrder_eq] at same
    simp only [compareLex_eq_eq, compareOn] at same
    obtain ⟨kind, -, core, length⟩ := same
    have kind : isNumber a = isNumber b := by
      have kind := LawfulEqOrd.eq_of_compare kind
      simpa using kind
    have core : digits a = digits b := LawfulEqOrd.eq_of_compare core
    cases number : isNumber a with
    | false =>
      have number' : isNumber b = false := kind ▸ number
      simpa [digits, number, number'] using core
    | true =>
      have number' : isNumber b = true := kind ▸ number
      have length : a.length = b.length := by
        simpa [width, number, number'] using length
      rw [padding_append_digits number, padding_append_digits number', core, length]

theorem preOrder_eq_buildOrder {a b : Identifier} (word : PreWord a) (word' : PreWord b) :
    preOrder a b = buildOrder a b := by
  by_cases numbers : isNumber a = true ∧ isNumber b = true
  · obtain ⟨number, number'⟩ := numbers
    have value := preOrder_of_numbers word word' number number'
    rw [buildOrder_of_numbers number number', ← value]
    -- Numbers of one value are the same number, for they are not padded.
    cases order : preOrder a b with
    | lt => rfl
    | gt => rfl
    | eq =>
      obtain rfl := LawfulEqCmp.eq_of_compare order
      exact (compare_eq_iff_eq.mpr rfl).symm
  · unfold preOrder buildOrder
    cases number : isNumber a <;> cases number' : isNumber b
    · rfl
    · rfl
    · rfl
    · exact absurd ⟨number, number'⟩ numbers

/-- A list comes before another if the first item in which they differ comes first, or if it ends
there. -/
theorem compareLex_eq_lt_iff {α : Type} {one : α → α → Ordering} {less : α → α → Prop}
    [LawfulEqCmp one] (h : ∀ a b, one a b = .lt ↔ less a b) {as bs : List α} :
    List.compareLex one as bs = .lt ↔ List.Lex less as bs := by
  induction as generalizing bs with
  | nil =>
    cases bs with
    | nil => simp [List.compareLex_nil_nil]
    | cons b bs => simp [List.compareLex_nil_cons]
  | cons a as ih =>
    cases bs with
    | nil => simp [List.compareLex_cons_nil]
    | cons b bs =>
      rw [List.compareLex_cons_cons, Ordering.then_eq_lt, h, ih, LawfulEqCmp.compare_eq_iff_eq,
        List.cons_lex_cons_iff]

/-- Which of two identifiers comes first. Numbers come before words. Of two numbers the smaller
comes first, of two that are equal the one with less padding. Words compare by their bytes. -/
def Less (a b : Identifier) : Prop :=
  match isNumber a, isNumber b with
  | true, true =>
    digitsValue a < digitsValue b ∨ digitsValue a = digitsValue b ∧ a.length < b.length
  | true, false => True
  | false, true => False
  | false, false => List.Lex (· < ·) (Text.bytes a) (Text.bytes b)

theorem buildOrder_eq_lt_iff (a b : Identifier) : buildOrder a b = .lt ↔ Less a b := by
  unfold Less
  cases number : isNumber a with
  | true =>
    cases number' : isNumber b with
    | true =>
      rw [buildOrder_of_numbers number number', Ordering.then_eq_lt, compare_lt_iff_lt,
        compare_eq_iff_eq, compare_lt_iff_lt]
    | false => simp [buildOrder, number, number']
  | false =>
    cases number' : isNumber b with
    | true => simp [buildOrder, number, number']
    | false =>
      have byBytes : buildOrder a b = compare (Text.bytes a) (Text.bytes b) := by
        rw [Text.compare_bytes]
        unfold buildOrder
        rw [number, number']
      rw [byBytes]
      exact compareLex_eq_lt_iff fun _ _ => Std.compare_eq_lt

instance (one : Identifier → Identifier → Ordering) [LawfulEqCmp one] :
    LawfulEqCmp (listOrder one) := by
  rw [listOrder_eq]
  infer_instance

theorem listOrder_eq_lt_iff {as bs : List Identifier} :
    listOrder buildOrder as bs = .lt ↔ List.Lex Less as bs := by
  rw [listOrder_eq]
  exact compareLex_eq_lt_iff buildOrder_eq_lt_iff

theorem listOrder_congr {as bs : List Identifier} (words : ∀ i ∈ as, PreWord i)
    (words' : ∀ i ∈ bs, PreWord i) : listOrder preOrder as bs = listOrder buildOrder as bs := by
  induction as generalizing bs with
  | nil => cases bs <;> rfl
  | cons a as ih =>
    cases bs with
    | nil => rfl
    | cons b bs =>
      obtain ⟨word, words⟩ := List.forall_mem_cons.mp words
      obtain ⟨word', words'⟩ := List.forall_mem_cons.mp words'
      rw [listOrder, listOrder, preOrder_eq_buildOrder word word', ih words words']

end Identifier

namespace Core

/-- The numbers compare from the left. -/
def Less (a b : Core) : Prop :=
  a.major < b.major ∨ a.major = b.major ∧
    (a.minor < b.minor ∨ a.minor = b.minor ∧ a.patch < b.patch)

theorem order_eq_lt_iff {a b : Core} : a.order b = .lt ↔ a.Less b := by
  simp only [order, Less, Ordering.then_eq_lt, compare_lt_iff_lt, compare_eq_iff_eq]

instance : LawfulEqCmp order where
  eq_of_compare := by
    intro a b same
    simp only [order, Ordering.then_eq_eq, compare_eq_iff_eq] at same
    obtain ⟨major, minor, patch⟩ := same
    cases a
    cases b
    simp_all

end Core

namespace Version

open Identifier (PreWord)

/-- A release comes after its pre-releases. Pre-releases compare from the left. -/
def PreLess (as bs : List Identifier) : Prop :=
  as ≠ [] ∧ (bs = [] ∨ List.Lex Identifier.Less as bs)

/-- Which of two versions comes first: by their numbers, then by their pre-releases, then by their
build metadata. -/
def Precedes (v w : Version) : Prop :=
  v.core.Less w.core ∨ v.core = w.core ∧
    (PreLess v.pre w.pre ∨ v.pre = w.pre ∧ List.Lex Identifier.Less v.build w.build)

theorem preOrder_eq_lt_iff {as bs : List Identifier} (words : ∀ i ∈ as, PreWord i)
    (words' : ∀ i ∈ bs, PreWord i) : preOrder as bs = .lt ↔ PreLess as bs := by
  unfold PreLess
  cases as with
  | nil => cases bs <;> simp [preOrder]
  | cons a as =>
    cases bs with
    | nil => simp [preOrder]
    | cons b bs =>
      have order : preOrder (a :: as) (b :: bs) =
          Identifier.listOrder Identifier.buildOrder (a :: as) (b :: bs) :=
        Identifier.listOrder_congr words words'
      rw [order, Identifier.listOrder_eq_lt_iff]
      simp

instance : LawfulEqCmp preOrder where
  eq_of_compare := by
    intro as bs same
    rw [preOrder_eq, compareLex_eq_eq] at same
    exact LawfulEqCmp.eq_of_compare same.2

/-- The order tells any two versions apart. -/
theorem order_eq_eq_iff {v w : Version} : v.order w = .eq ↔ v = w := by
  unfold order
  rw [Ordering.then_eq_eq, Ordering.then_eq_eq, LawfulEqCmp.compare_eq_iff_eq,
    LawfulEqCmp.compare_eq_iff_eq, LawfulEqCmp.compare_eq_iff_eq]
  constructor
  · rintro ⟨core, pre, build⟩
    cases v
    cases w
    simp_all
  · rintro rfl
    exact ⟨rfl, rfl, rfl⟩

theorem preWord_of_lenient? {s : String} {version : Version} (h : lenient? s = some version) :
    ∀ i ∈ version.pre, PreWord i := by
  obtain ⟨-, -, parts, cs, -, -, spells, -⟩ := lenient?_eq_some_iff.mp h
  exact spells.pre

/-- Versions that were read are in the order of their precedence. -/
theorem order_eq_lt_iff {a b : String} {v w : Version} (read : lenient? a = some v)
    (read' : lenient? b = some w) : v.order w = .lt ↔ v.Precedes w := by
  unfold order Precedes
  rw [Ordering.then_eq_lt, Ordering.then_eq_lt, Core.order_eq_lt_iff,
    preOrder_eq_lt_iff (preWord_of_lenient? read) (preWord_of_lenient? read'),
    Identifier.listOrder_eq_lt_iff, LawfulEqCmp.compare_eq_iff_eq, LawfulEqCmp.compare_eq_iff_eq]

/-- Two versions that do not come one after the other the wrong way round. Different texts of one
version go by their bytes. -/
def InOrder (a b : String) : Prop :=
  ∃ v w, lenient? a = some v ∧ lenient? b = some w ∧
    (v.Precedes w ∨ v = w ∧ (Text.byteOrder a b).isLE = true)

theorem Before.inOrder {a b : String} (h : Before a b) (read : lenient? a ≠ none)
    (read' : lenient? b ≠ none) : InOrder a b := by
  obtain ⟨v, parsed⟩ := Option.ne_none_iff_exists'.mp read
  obtain ⟨w, parsed'⟩ := Option.ne_none_iff_exists'.mp read'
  refine ⟨v, w, parsed, parsed', ?_⟩
  rw [before_iff parsed parsed', order_eq_lt_iff parsed parsed', order_eq_eq_iff] at h
  rw [Text.byteOrder_eq]
  exact h

theorem Before.byBytes {a b : String} (h : Before a b) (unread : lenient? a = none)
    (unread' : lenient? b = none) : (Text.byteOrder a b).isLE = true := by
  rw [Before, textOrder, unread, unread'] at h
  rw [Text.byteOrder_eq]
  exact h

/-- Sorting keeps what is listed. Texts that are no version come first, by their bytes, and then
the versions in their order. No two texts share a place, so that a listing comes out the same
however it went in. -/
theorem ascending_canonical (versions : List String) :
    (ascending versions).Perm versions ∧
      (∃ unread read, Halves (ascending versions) unread read ∧
        unread.Pairwise (fun a b => (Text.byteOrder a b).isLE = true) ∧ read.Pairwise InOrder) ∧
      (∀ others : List String, others.Perm versions → ascending others = ascending versions) ∧
      (∀ a b, textOrder a b = .eq ↔ a = b) ∧
      (∀ a b, textOrder b a = (textOrder a b).swap) ∧
      ∀ a b c, (textOrder a b).isLE = true → (textOrder b c).isLE = true →
        (textOrder a c).isLE = true := by
  have sorted := sorted_ascending versions
  obtain ⟨unread, read, halves⟩ := exists_halves sorted
  rw [halves.whole] at sorted
  obtain ⟨sorted, sorted', -⟩ := List.pairwise_append.mp sorted
  have first : unread.Pairwise (fun a b => (Text.byteOrder a b).isLE = true) := by
    refine sorted.imp_of_mem ?_
    intro a b member member' before
    exact before.byBytes (halves.unreadable a member) (halves.unreadable b member')
  have last : read.Pairwise InOrder := by
    refine sorted'.imp_of_mem ?_
    intro a b member member' before
    exact before.inOrder (halves.readable a member) (halves.readable b member')
  refine ⟨ascending_perm versions, ⟨unread, read, halves, first, last⟩,
    fun _ same => ascending_congr same, fun _ _ => LawfulEqCmp.compare_eq_iff_eq,
    fun _ _ => OrientedCmp.eq_swap, fun _ _ _ => TransCmp.isLE_trans⟩

/-- Three texts of two versions, and one of none. -/
theorem ascending_reordered :
    ["v1.2", "1.10", "nightly", "1.2.0"].Perm ["nightly", "1.2.0", "v1.2", "1.10"] ∧
      ascending ["v1.2", "1.10", "nightly", "1.2.0"] =
        ascending ["nightly", "1.2.0", "v1.2", "1.10"] := by
  have same : ["v1.2", "1.10", "nightly", "1.2.0"].Perm ["nightly", "1.2.0", "v1.2", "1.10"] := by
    decide
  exact ⟨same, (ascending_canonical _).2.2.1 _ same⟩

example : ascending ["v1.2", "1.10", "nightly", "1.2.0", "1.2.0-rc.1"] =
    ["nightly", "1.2.0-rc.1", "1.2.0", "v1.2", "1.10"] := by decide

end Version

end ReleaseGate
