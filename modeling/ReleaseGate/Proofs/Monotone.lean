import ReleaseGate.Persona
import ReleaseGate.Proofs.Ranges

/-! What a sorted listing looks like to those who may have a part of it. -/

namespace ReleaseGate

namespace Version

variable {p : String → Bool} {versions : List String} {a b : String}

/-- If a version has a property, then an earlier one has it. -/
def Lower (p : String → Bool) : Prop :=
  ∀ {a b v w}, lenient? a = some v → lenient? b = some w → (v.core.order w.core).isLE = true →
    p b = true → p a = true

/-- The numbers of sorted versions ascend. -/
theorem core_isLE_of_before {v w : Version} (read : lenient? a = some v)
    (read' : lenient? b = some w) (h : Before a b) : (v.core.order w.core).isLE = true := by
  rw [Before, textOrder, read, read'] at h
  have le : (v.order w).isLE = true := Ordering.isLE_left_of_isLE_then h
  exact Ordering.isLE_left_of_isLE_then le

/-- A listing is cut in three: the texts that are no version, the versions that have a property,
and then those that have not. -/
structure Parted (p : String → Bool) (versions unread lower upper : List String) : Prop
    extends Halves versions unread (lower ++ upper) where
  lower : ∀ version ∈ lower, p version = true
  upper : ∀ version ∈ upper, p version = false

theorem exists_parted (down : Lower p) (sorted : versions.Pairwise Before) :
    ∃ unread lower upper, Parted p versions unread lower upper := by
  obtain ⟨unread, read, halves⟩ := exists_halves sorted
  rw [halves.whole] at sorted
  obtain ⟨-, sorted, -⟩ := List.pairwise_append.mp sorted
  have drops : read.Pairwise fun a b => (!p a) = true → (!p b) = true := by
    refine sorted.imp_of_mem ?_
    intro a b member member' before lacks
    obtain ⟨v, parsed⟩ := Option.ne_none_iff_exists'.mp (halves.readable a member)
    obtain ⟨w, parsed'⟩ := Option.ne_none_iff_exists'.mp (halves.readable b member')
    cases has : p b with
    | false => rfl
    | true =>
      rw [down parsed parsed' (core_isLE_of_before parsed parsed' before) has] at lacks
      cases lacks
  have cut := filter_append_filter drops
  simp only [Bool.not_not] at cut
  rw [← cut] at halves
  refine ⟨unread, _, _, halves, ?_, ?_⟩
  · intro version member
    exact (List.mem_filter.mp member).2
  · intro version member
    simpa using (List.mem_filter.mp member).2

variable {unread lower upper : List String}

/-- Without the versions that have the property the rest is as it was. -/
theorem Parted.filter_not (parted : Parted p versions unread lower upper)
    (unreadable : ∀ version, lenient? version = none → p version = false) :
    versions.filter (!p ·) = unread ++ upper := by
  have first : unread.filter (!p ·) = unread := by
    rw [List.filter_eq_self]
    intro version member
    rw [unreadable version (parted.unreadable version member)]
    rfl
  have gone : lower.filter (!p ·) = [] := by
    rw [List.filter_eq_nil_iff]
    intro version member
    simp [parted.lower version member]
  have last : upper.filter (!p ·) = upper := by
    rw [List.filter_eq_self]
    intro version member
    rw [parted.upper version member]
    rfl
  rw [parted.whole, List.filter_append, List.filter_append, first, gone, last, List.nil_append]

theorem Parted.filter (parted : Parted p versions unread lower upper)
    (unreadable : ∀ version, lenient? version = none → p version = false) :
    versions.filter p = lower := by
  have gone : unread.filter p = [] := by
    rw [List.filter_eq_nil_iff]
    intro version member
    simp [unreadable version (parted.unreadable version member)]
  have gone' : upper.filter p = [] := by
    rw [List.filter_eq_nil_iff]
    intro version member
    simp [parted.upper version member]
  rw [parted.whole, List.filter_append, List.filter_append, gone, gone',
    List.filter_eq_self.mpr parted.lower, List.nil_append, List.append_nil]

end Version

namespace Product

variable {product version : String}

theorem endOfLife_of_unreadable (unread : Version.lenient? version = none) :
    endOfLife product version = false := by
  unfold endOfLife
  rw [unread]
  cases rules? product <;> simp

theorem openSource_of_unreadable (unread : Version.lenient? version = none) :
    openSource product version = false := by
  unfold openSource
  rw [unread]
  cases (rules? product).bind Rules.openSource <;> rfl

theorem endOfLife_of_unregistered (h : rules? product = none) (version : String) :
    endOfLife product version = false := by
  unfold endOfLife
  rw [h]
  split <;> rfl

theorem openSource_of_unlimited (h : (rules? product).bind Rules.openSource = none)
    (version : String) : openSource product version = false := by
  unfold openSource
  rw [h]

end Product

namespace Persona

open Version (Before Lower Parted)

variable {versions : List String} {product : String}

/-- Of a sorted listing a commercial deployment is shown what is no version and the last of the
versions. -/
theorem visible_commercial (sorted : versions.Pairwise Before) :
    ∃ unread ended kept, Parted (Product.endOfLife product) versions unread ended kept ∧
      visibleVersions .commercial versions product false = unread ++ kept ∧
      (Product.rules? product = none → ended = []) := by
  have down : Lower (Product.endOfLife product) := Product.endOfLife_of_isLE
  obtain ⟨unread, ended, kept, parted⟩ := Version.exists_parted down sorted
  refine ⟨unread, ended, kept, parted, parted.filter_not ?_, ?_⟩
  · intro version unread
    exact Product.endOfLife_of_unreadable unread
  · intro unregistered
    rw [List.eq_nil_iff_forall_not_mem]
    intro version member
    have ended := parted.lower version member
    rw [Product.endOfLife_of_unregistered unregistered] at ended
    cases ended

/-- Of a sorted listing an open-source deployment is shown the first of the versions. -/
theorem visible_opensource (sorted : versions.Pairwise Before) (other : product ≠ "habitat")
    (eol : Bool) :
    ∃ unread kept cut, Parted (Product.openSource product) versions unread kept cut ∧
      visibleVersions .opensource versions product eol = kept ∧
      ((Product.rules? product).bind Product.Rules.openSource = none → kept = []) := by
  have down : Lower (Product.openSource product) := Product.openSource_of_isLE
  obtain ⟨unread, kept, cut, parted⟩ := Version.exists_parted down sorted
  refine ⟨unread, kept, cut, parted, ?_, ?_⟩
  · rw [visibleVersions, if_neg other]
    exact parted.filter fun version unread => Product.openSource_of_unreadable unread
  · intro unlimited
    rw [List.eq_nil_iff_forall_not_mem]
    intro version member
    have source := parted.lower version member
    rw [Product.openSource_of_unlimited unlimited] at source
    cases source

/-- What is shown is shown again. -/
theorem visible_again (persona : Persona) (versions : List String) (product : String)
    (eol : Bool) :
    visibleVersions persona (visibleVersions persona versions product eol) product eol =
      visibleVersions persona versions product eol := by
  cases persona with
  | commercial =>
    unfold visibleVersions
    simp only
    split
    · rfl
    · rw [List.filter_filter]
      simp only [Bool.and_self]
  | trial =>
    unfold visibleVersions
    simp only
    cases versions.getLast? <;> rfl
  | opensource =>
    unfold visibleVersions
    simp only
    split
    · rfl
    · rw [List.filter_filter]
      simp only [Bool.and_self]

/-- Of two versions the earlier has ended if the later has, and is open source if the later is. So
a commercial deployment is shown the last versions of a sorted listing, an open-source deployment
the first, and what either is shown it is shown again. -/
theorem visible_monotone (product : String) :
    (∀ a b v w, Version.lenient? a = some v → Version.lenient? b = some w →
      (v.core.order w.core).isLE = true →
        (Product.endOfLife product b = true → Product.endOfLife product a = true) ∧
        (Product.openSource product b = true → Product.openSource product a = true)) ∧
    (∀ versions : List String, versions.Pairwise Before →
      (∃ unread ended kept, Parted (Product.endOfLife product) versions unread ended kept ∧
        visibleVersions .commercial versions product false = unread ++ kept ∧
        (Product.rules? product = none → ended = [])) ∧
      (product ≠ "habitat" → ∀ eol, ∃ unread kept cut,
        Parted (Product.openSource product) versions unread kept cut ∧
        visibleVersions .opensource versions product eol = kept ∧
        ((Product.rules? product).bind Product.Rules.openSource = none → kept = []))) ∧
    ∀ persona versions eol,
      visibleVersions persona (visibleVersions persona versions product eol) product eol =
        visibleVersions persona versions product eol := by
  refine ⟨?_, ?_, fun persona versions eol => visible_again persona versions product eol⟩
  · intro a b v w read read' le
    exact ⟨Product.endOfLife_of_isLE read read' le, Product.openSource_of_isLE read read' le⟩
  · intro versions sorted
    exact ⟨visible_commercial sorted, visible_opensource sorted⟩

/-- A sorted listing of chef, and what of it is open source. -/
theorem visible_chef :
    ["nightly", "14.15.6", "16.0.0-rc.1", "18.2.7"].Pairwise Before ∧
      ∃ unread kept cut, Parted (Product.openSource "chef")
        ["nightly", "14.15.6", "16.0.0-rc.1", "18.2.7"] unread kept cut ∧
      visibleVersions .opensource ["nightly", "14.15.6", "16.0.0-rc.1", "18.2.7"] "chef" true =
        kept ∧
      ((Product.rules? "chef").bind Product.Rules.openSource = none → kept = []) := by
  have sorted : ["nightly", "14.15.6", "16.0.0-rc.1", "18.2.7"].Pairwise Before := by
    unfold Before
    decide
  exact ⟨sorted, ((visible_monotone "chef").2.1 _ sorted).2 (by decide) true⟩

example : visibleVersions .commercial ["nightly", "14.15.6", "16.0.0-rc.1", "18.2.7"] "chef" false =
    ["nightly", "16.0.0-rc.1", "18.2.7"] := by decide

end Persona

end ReleaseGate
