import ReleaseGate.Version.Order

/-! The order of versions. Of two texts one comes first unless they are the same text, and what is
sorted comes out the same however it went in. -/

namespace ReleaseGate

open Std (LawfulEqCmp OrientedCmp TransCmp)

namespace Core

theorem order_eq : order =
    compareLex (compareOn major) (compareLex (compareOn minor) (compareOn patch)) := rfl

instance : TransCmp order := by
  rw [order_eq]
  infer_instance

theorem order_isLE_iff {a b : Core} : (a.order b).isLE = true ↔ a.major < b.major ∨
    a.major = b.major ∧ (a.minor < b.minor ∨ a.minor = b.minor ∧ a.patch ≤ b.patch) := by
  simp only [order, Ordering.isLE_then_iff_or, Std.compare_eq_lt, Nat.compare_eq_eq,
    Nat.isLE_compare]

end Core

namespace Identifier

/-- How long a number is. Words are not told apart by their length. -/
def width (i : Identifier) : Nat := if isNumber i then i.length else 0

/-- The digits of a number without its padding; a word as it is. -/
def digits (i : Identifier) : Identifier := if isNumber i then i.dropWhile (· == '0') else i

/-- How long a number is without its padding. -/
def size (i : Identifier) : Nat := if isNumber i then (digits i).length else 0

/-- Numbers come first and compare by length; what is left is told apart by characters. -/
theorem preOrder_eq : preOrder =
    compareLex (compareOn (!isNumber ·)) (compareLex (compareOn width) compare) := by
  funext a b
  simp only [preOrder, compareLex, compareOn, width]
  cases isNumber a <;> cases isNumber b <;> rfl

instance : TransCmp preOrder := by
  rw [preOrder_eq]
  infer_instance

/-- Padding counts last. -/
theorem buildOrder_eq : buildOrder =
    compareLex (compareOn (!isNumber ·))
      (compareLex (compareOn size) (compareLex (compareOn digits) (compareOn width))) := by
  funext a b
  simp only [buildOrder, compareLex, compareOn, size, digits, width]
  cases isNumber a <;> cases isNumber b
  · exact Ordering.then_eq.symm
  · rfl
  · rfl
  · rfl

instance : TransCmp buildOrder := by
  rw [buildOrder_eq]
  infer_instance

theorem listOrder_eq (one : Identifier → Identifier → Ordering) :
    listOrder one = List.compareLex one := by
  funext as bs
  induction as generalizing bs with
  | nil => cases bs <;> rfl
  | cons a as ih =>
    cases bs with
    | nil => rfl
    | cons b bs => rw [List.compareLex_cons_cons, listOrder, ih]

instance (one : Identifier → Identifier → Ordering) [TransCmp one] : TransCmp (listOrder one) := by
  rw [listOrder_eq]
  infer_instance

end Identifier

namespace Version

theorem preOrder_eq : preOrder =
    compareLex (compareOn List.isEmpty) (Identifier.listOrder Identifier.preOrder) := by
  funext a b
  cases a <;> cases b <;> rfl

instance : TransCmp preOrder := by
  rw [preOrder_eq]
  infer_instance

/-- What is told apart by a part of it is in order when the parts are. -/
theorem transCmp_on {α β : Type} (part : α → β) (cmp : β → β → Ordering) [TransCmp cmp] :
    TransCmp fun a b => cmp (part a) (part b) where
  eq_swap := by
    intro a b
    exact OrientedCmp.eq_swap
  isLE_trans := by
    intro a b c first second
    exact TransCmp.isLE_trans first second

instance : Ord Version := ⟨order⟩

instance : Std.TransOrd Version := by
  have core := transCmp_on Version.core Core.order
  have pre := transCmp_on Version.pre preOrder
  have build := transCmp_on Version.build (Identifier.listOrder Identifier.buildOrder)
  exact inferInstanceAs (TransCmp (compareLex _ (compareLex _ _)))

/-- Texts compare by the version they are read as, if any, and then by characters. -/
theorem textOrder_eq :
    textOrder = compareLex (compareOn lenient?) (compareOn String.toList) := by
  funext a b
  simp only [textOrder, compareLex, compareOn]
  cases lenient? a <;> cases lenient? b <;> rfl

instance : TransCmp textOrder := by
  rw [textOrder_eq]
  infer_instance

/-- No two texts stand in one place. -/
instance : LawfulEqCmp textOrder where
  eq_of_compare := by
    intro a b same
    rw [textOrder_eq, compareLex_eq_eq] at same
    exact String.toList_inj.mp (LawfulEqCmp.eq_of_compare same.2)

/-- The first text does not come after the second. -/
def Before (a b : String) : Prop := (textOrder a b).isLE = true

theorem Before.refl (a : String) : Before a a := Std.ReflCmp.isLE_rfl

theorem Before.trans {a b c : String} (h : Before a b) (h' : Before b c) : Before a c :=
  TransCmp.isLE_trans h h'

theorem Before.antisymm {a b : String} (h : Before a b) (h' : Before b a) : a = b :=
  LawfulEqCmp.eq_of_compare (OrientedCmp.isLE_antisymm h h')

theorem before_of_not {a b : String} (h : ¬ Before a b) : Before b a := by
  have swapped : textOrder b a = (textOrder a b).swap := OrientedCmp.eq_swap
  unfold Before at h ⊢
  rw [swapped]
  cases same : textOrder a b <;> simp_all

/-- Two versions are in order by what they are read as, and by characters if that is the same. -/
theorem before_iff {a b : String} {v w : Version} (read : lenient? a = some v)
    (read' : lenient? b = some w) : Before a b ↔
      v.order w = .lt ∨ v.order w = .eq ∧ (compare a.toList b.toList).isLE = true := by
  rw [Before, textOrder, read, read', Ordering.isLE_then_iff_or]

/-- After a version there are only versions. -/
theorem Before.readable {a b : String} (h : Before a b) (read : lenient? a ≠ none) :
    lenient? b ≠ none := by
  intro unread
  cases parsed : lenient? a with
  | none => exact read parsed
  | some v =>
    rw [Before, textOrder, parsed, unread] at h
    cases h

/-- A listing is cut in two, with the texts that are no version before those that are one. -/
structure Halves (versions unread read : List String) : Prop where
  whole : versions = unread ++ read
  unreadable : ∀ version ∈ unread, lenient? version = none
  readable : ∀ version ∈ read, lenient? version ≠ none

/-- A list in which what has a property is followed only by what has it too is what lacks the
property and then what has it. -/
theorem filter_append_filter {α : Type} {p : α → Bool} {xs : List α}
    (h : xs.Pairwise fun a b => p a = true → p b = true) :
    xs.filter (!p ·) ++ xs.filter p = xs := by
  induction xs with
  | nil => rfl
  | cons x xs ih =>
    obtain ⟨later, rest⟩ := List.pairwise_cons.mp h
    by_cases has : p x = true
    · have all : ∀ y ∈ xs, p y = true := fun y member => later y member has
      have without : xs.filter (!p ·) = [] := by
        rw [List.filter_eq_nil_iff]
        intro y member
        simp [all y member]
      rw [List.filter_cons_of_neg (by simp [has]), List.filter_cons_of_pos has, without,
        List.filter_eq_self.mpr all, List.nil_append]
    · rw [List.filter_cons_of_pos (by simpa using has), List.filter_cons_of_neg has,
        List.cons_append, ih rest]

theorem exists_halves {versions : List String} (sorted : versions.Pairwise Before) :
    ∃ unread read, Halves versions unread read := by
  have parted := filter_append_filter (p := fun version => (lenient? version).isSome)
    (sorted.imp fun {a b} before => by
      simpa only [Option.isSome_iff_ne_none] using before.readable)
  refine ⟨_, _, parted.symm, ?_, ?_⟩
  · intro version member
    simpa using (List.mem_filter.mp member).2
  · intro version member
    simpa [Option.isSome_iff_ne_none] using (List.mem_filter.mp member).2

theorem place_perm (version : String) (versions : List String) :
    (place version versions).Perm (version :: versions) := by
  induction versions with
  | nil => exact .refl _
  | cons first rest ih =>
    rw [place]
    split
    · exact .refl _
    · exact (ih.cons first).trans (.swap version first rest)

/-- Sorting keeps the versions. -/
theorem ascending_perm (versions : List String) : (ascending versions).Perm versions := by
  unfold ascending
  induction versions with
  | nil => exact .refl _
  | cons first rest ih => exact (place_perm _ _).trans (ih.cons first)

theorem mem_ascending {version : String} {versions : List String} :
    version ∈ ascending versions ↔ version ∈ versions :=
  (ascending_perm versions).mem_iff

theorem sorted_place (version : String) {versions : List String}
    (h : versions.Pairwise Before) : (place version versions).Pairwise Before := by
  induction versions with
  | nil => exact List.pairwise_singleton _ _
  | cons first rest ih =>
    obtain ⟨least, sorted⟩ := List.pairwise_cons.mp h
    rw [place]
    split
    · rename_i less
      refine List.pairwise_cons.mpr ⟨?_, h⟩
      intro other member
      obtain rfl | later := List.mem_cons.mp member
      · exact less
      · exact Before.trans less (least other later)
    · rename_i greater
      refine List.pairwise_cons.mpr ⟨?_, ih sorted⟩
      intro other member
      obtain rfl | later := List.mem_cons.mp ((place_perm version rest).mem_iff.mp member)
      · exact before_of_not greater
      · exact least other later

theorem sorted_ascending (versions : List String) : (ascending versions).Pairwise Before := by
  unfold ascending
  induction versions with
  | nil => exact .nil
  | cons first rest ih => exact sorted_place first ih

/-- What is sorted comes out the same however it went in. -/
theorem ascending_congr {versions others : List String} (h : versions.Perm others) :
    ascending versions = ascending others := by
  apply List.Perm.eq_of_pairwise (fun _ _ _ _ => Before.antisymm) (sorted_ascending versions)
    (sorted_ascending others)
  exact (ascending_perm versions).trans (h.trans (ascending_perm others).symm)

end Version

end ReleaseGate
