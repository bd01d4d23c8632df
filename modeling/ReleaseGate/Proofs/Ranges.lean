import ReleaseGate.Product
import ReleaseGate.Proofs.Order

/-! The ranges by which versions are judged. What has ended ends somewhere, and so does what is open
source: of two versions the earlier has ended if the later has, and is open source if the later
is. -/

namespace ReleaseGate

open Std (TransCmp)

/-- The first numbers of an earlier core come no later. -/
theorem Core.upTo_isLE {a b : Core} (le : (a.order b).isLE = true) (n : Nat) :
    ((a.upTo n).order (b.upTo n)).isLE = true := by
  rw [Core.order_isLE_iff] at le ⊢
  match n with
  | 0 | 1 | 2 | _ + 3 =>
    simp only [Core.upTo, true_and]
    omega

namespace Range

variable {range : Range} {a b : Core}

/-- Numbers that a lower bound leaves out may as well be compared with zero. -/
theorem contains_iff (side : range.side = .atLeast) (core : Core) :
    range.contains core = true ↔ (range.limit.order core).isLE = true := by
  unfold contains limit
  rw [side]
  simp only [Core.order_isLE_iff]
  match range.bound with
  | [] | [_] | [_, _] | _ :: _ :: _ :: _ => simp [Core.upTo] <;> omega

/-- What is bounded from below goes on. -/
theorem contains_of_isLE (side : range.side = .atLeast) (le : (a.order b).isLE = true)
    (inside : range.contains a = true) : range.contains b = true := by
  rw [contains_iff side] at inside ⊢
  exact TransCmp.isLE_trans inside le

/-- What is bounded from above has no gap below it, and neither has what is not bounded at all. -/
theorem contains_of_isLE_of_contains (bounded : range.side ≠ .atLeast ∨ range.limit = ⟨0, 0, 0⟩)
    (le : (a.order b).isLE = true) (inside : range.contains b = true) :
    range.contains a = true := by
  unfold contains at inside ⊢
  cases side : range.side with
  | atLeast =>
    have least : range.limit = ⟨0, 0, 0⟩ := bounded.resolve_left (by simp [side])
    simp only
    rw [least, Core.order_isLE_iff]
    simp only
    omega
  | atMost =>
    rw [side] at inside
    exact TransCmp.isLE_trans (Core.upTo_isLE le _) inside
  | below =>
    rw [side] at inside
    simp only [Ordering.isLT_iff_eq_lt] at inside ⊢
    exact TransCmp.lt_of_isLE_of_lt (Core.upTo_isLE le _) inside

end Range

namespace Product

theorem mem_registry {product : String} {rules : Rules} (h : rules? product = some rules) :
    (product, rules) ∈ registry := by
  obtain ⟨before, after, split, -⟩ := List.lookup_eq_some_iff.mp h
  rw [split]
  simp

/-- Support begins with a whole release, except for one product. -/
theorem supported_floor : ∀ entry ∈ registry, entry.2.supported.side = .atLeast ∧
    if entry.1 = "manage" then entry.2.supported.limit = ⟨2, 5, 0⟩
    else entry.2.supported.limit.minor = 0 ∧ entry.2.supported.limit.patch = 0 := by
  decide

/-- Open source ends with some version, or all versions are. -/
theorem openSource_ceiling : ∀ entry ∈ registry, ∀ range ∈ entry.2.openSource,
    range.side ≠ .atLeast ∨ range.limit = ⟨0, 0, 0⟩ := by
  decide

variable {product a b : String} {v w : Version}

/-- A text that can be read does not ask for the latest version. -/
theorem wantsLatest_of_lenient? (read : Version.lenient? a = some v) :
    wantsLatest a = false := by
  have unread : Version.lenient? "" = none ∧ Version.lenient? "latest" = none := by decide
  rw [Bool.eq_false_iff]
  intro latest
  simp only [wantsLatest, Bool.or_eq_true, decide_eq_true_eq] at latest
  obtain rfl | rfl := latest
  · rw [unread.1] at read
    cases read
  · rw [unread.2] at read
    cases read

theorem endOfLife_iff (read : Version.lenient? a = some v) : endOfLife product a = true ↔
    ∃ rules, rules? product = some rules ∧ rules.supported.contains v.core = false := by
  unfold endOfLife
  rw [if_neg (by simp [wantsLatest_of_lenient? read]), read]
  cases rules? product <;> simp

theorem openSource_iff (read : Version.lenient? a = some v) : openSource product a = true ↔
    ∃ range, (rules? product).bind Rules.openSource = some range ∧
      range.contains v.core = true := by
  unfold openSource
  rw [read]
  cases (rules? product).bind Rules.openSource <;> simp

/-- If the later of two versions has ended, the earlier has. -/
theorem endOfLife_of_isLE (read : Version.lenient? a = some v) (read' : Version.lenient? b = some w)
    (le : (v.core.order w.core).isLE = true) (ended : endOfLife product b = true) :
    endOfLife product a = true := by
  obtain ⟨rules, registered, outside⟩ := (endOfLife_iff read').mp ended
  refine (endOfLife_iff read).mpr ⟨rules, registered, ?_⟩
  rw [Bool.eq_false_iff] at outside ⊢
  intro inside
  have side := (supported_floor _ (mem_registry registered)).1
  exact outside (Range.contains_of_isLE side le inside)

/-- If the later of two versions is open source, the earlier is. -/
theorem openSource_of_isLE (read : Version.lenient? a = some v)
    (read' : Version.lenient? b = some w) (le : (v.core.order w.core).isLE = true)
    (source : openSource product b = true) : openSource product a = true := by
  obtain ⟨range, limited, inside⟩ := (openSource_iff read').mp source
  refine (openSource_iff read).mpr ⟨range, limited, ?_⟩
  obtain ⟨rules, registered, limit⟩ := Option.bind_eq_some_iff.mp limited
  have ceiling := openSource_ceiling _ (mem_registry registered) range limit
  exact Range.contains_of_isLE_of_contains ceiling le inside

end Product

end ReleaseGate
