import ReleaseGate.Proofs.Leaves

/-! What is found under the keys of a catalog. -/

namespace ReleaseGate

namespace Dict

variable {α : Type} {d : Dict α} {key : String} {value : α}

/-- An entry is found under its key. -/
theorem mem_entries_iff : (key, value) ∈ d.entries ↔ d.get? key = some value :=
  (lookup_eq_some_iff_mem d.nodup_keys).symm

/-- An empty dictionary in place of a missing one has nothing under any key. -/
theorem get?_getD_empty (found : Option (Dict α)) (key : String) :
    (found.getD .empty).get? key = found.bind (·.get? key) := by
  cases found <;> rfl

end Dict

namespace Package.Tree

variable {α β : Type} {tree : Tree α} {a b c : String} {value : α}

/-- A leaf is found under its keys. -/
theorem mem_leaves_iff : ((a, b, c), value) ∈ tree.leaves ↔ tree.get? a b c = some value := by
  unfold leaves get?
  simp only [List.mem_flatMap, List.mem_map, Prod.mk.injEq, bind, Option.bind_eq_some_iff]
  constructor
  · rintro ⟨⟨_, middle⟩, first, ⟨_, inner⟩, second, ⟨_, _⟩, third, ⟨rfl, rfl, rfl⟩, rfl⟩
    exact ⟨middle, Dict.mem_entries_iff.mp first, inner, Dict.mem_entries_iff.mp second,
      Dict.mem_entries_iff.mp third⟩
  · rintro ⟨middle, first, inner, second, third⟩
    exact ⟨(a, middle), Dict.mem_entries_iff.mpr first, (b, inner),
      Dict.mem_entries_iff.mpr second, (c, value), Dict.mem_entries_iff.mpr third,
      ⟨rfl, rfl, rfl⟩, rfl⟩

theorem get?_map (f : String → String → String → α → β) (tree : Tree α) (a b c : String) :
    (tree.map f).get? a b c = (tree.get? a b c).map (f a b c) := by
  unfold get? map
  rw [Dict.get?_map]
  cases Dict.get? tree a with
  | none => rfl
  | some middle =>
    simp only [Option.map_some, bind, Option.bind_some, Dict.get?_map]
    cases middle.get? b with
    | none => rfl
    | some inner => exact Dict.get?_map (f a b) inner c

theorem get?_empty : get? (.empty : Tree α) a b c = none := rfl

theorem get?_insert (tree : Tree α) (a b c x y z : String) (value : α) :
    (tree.insert a b c value).get? x y z =
      if x = a ∧ y = b ∧ z = c then some value else tree.get? x y z := by
  unfold insert get?
  simp only [Dict.get?_insert, bind]
  by_cases first : x = a
  · subst first
    simp only [if_true, true_and, Option.bind_some, Dict.get?_insert]
    by_cases second : y = b
    · subst second
      simp only [if_true, true_and, Option.bind_some, Dict.get?_insert, Dict.get?_getD_empty,
        Option.bind_assoc]
    · simp only [second, false_and, if_false, Dict.get?_getD_empty, Option.bind_assoc]
  · simp only [first, false_and, if_false]

/-- Of items that are put under the same keys the last is found. -/
theorem get?_foldl_insert (a b c : β → String) (value : β → α) (items : List β) (tree : Tree α)
    (x y z : String) :
    (items.foldl (fun tree item => tree.insert (a item) (b item) (c item) (value item)) tree).get?
        x y z =
      ((items.filter fun item => a item = x ∧ b item = y ∧ c item = z).getLast?.map value).or
        (tree.get? x y z) := by
  induction items generalizing tree with
  | nil => rfl
  | cons item items ih =>
    rw [List.foldl_cons, ih, get?_insert, List.filter_cons]
    by_cases same : a item = x ∧ b item = y ∧ c item = z
    · rw [if_pos (decide_eq_true same), List.getLast?_cons]
      obtain ⟨rfl, rfl, rfl⟩ := same
      rw [if_pos ⟨rfl, rfl, rfl⟩]
      cases (items.filter _).getLast? <;> rfl
    · have other : ¬ (x = a item ∧ y = b item ∧ z = c item) :=
        fun keys => same ⟨keys.1.symm, keys.2.1.symm, keys.2.2.symm⟩
      rw [if_neg other, if_neg (by simpa using same)]

end Package.Tree

end ReleaseGate
