import ReleaseGate.Package.Catalog

/-! What holds of all the packages in a catalog. -/

namespace ReleaseGate

namespace Dict

variable {α β : Type} {p : α → Prop}

/-- The property holds of every value. -/
def All (p : α → Prop) (d : Dict α) : Prop := ∀ entry ∈ d.entries, p entry.2

theorem all_empty : All p empty := fun _ hentry => absurd hentry List.not_mem_nil

theorem All.insert {d : Dict α} (h : d.All p) {value : α} (new : p value) (key : String) :
    (d.insert key value).All p := by
  intro entry hentry
  obtain rfl | old := mem_put hentry
  · exact new
  · exact h entry old

theorem All.getD {d : Dict α} (h : d.All p) (key : String) {absent : α} (missing : p absent) :
    p ((d.get? key).getD absent) := by
  cases found : d.get? key with
  | none => exact missing
  | some value =>
    obtain ⟨before, after, split, -⟩ := List.lookup_eq_some_iff.mp found
    exact h (key, value) (split ▸ by simp)

end Dict

namespace Package

variable {α β : Type} {p : α → Prop}

/-- The property holds of every value under three keys. -/
def Tree.All (p : α → Prop) (tree : Tree α) : Prop := Dict.All (Dict.All (Dict.All p)) tree

theorem Tree.all_iff_leaves {tree : Tree α} : Tree.All p tree ↔ ∀ leaf ∈ tree.leaves, p leaf.2 := by
  simp only [Tree.All, Dict.All, Tree.leaves, List.mem_flatMap, List.mem_map]
  constructor
  · rintro h _ ⟨first, hfirst, second, hsecond, third, hthird, rfl⟩
    exact h first hfirst second hsecond third hthird
  · intro h first hfirst second hsecond third hthird
    have leaf := h ((first.1, second.1, third.1), third.2)
    exact leaf ⟨first, hfirst, second, hsecond, third, hthird, rfl⟩

theorem Tree.all_empty : Tree.All p .empty := Dict.all_empty

theorem Tree.All.insert {tree : Tree α} (h : Tree.All p tree) {value : α} (new : p value)
    (a b c : String) : Tree.All p (tree.insert a b c value) := by
  have middle : Dict.All (Dict.All p) ((Dict.get? tree a).getD .empty) :=
    Dict.All.getD h a Dict.all_empty
  have inner := middle.getD b Dict.all_empty
  exact Dict.All.insert h (middle.insert (inner.insert new c) b) a

/-- The values of a mapped tree are those of the tree, each mapped under its keys. -/
theorem Tree.leaves_map (f : String → String → String → α → β) (tree : Tree α) :
    (tree.map f).leaves =
      tree.leaves.map fun leaf => (leaf.1, f leaf.1.1 leaf.1.2.1 leaf.1.2.2 leaf.2) := by
  simp only [Tree.leaves, Tree.map, Dict.map, List.flatMap_map, List.map_flatMap, List.map_map]
  rfl

theorem Catalog.mem_records_iff {catalog : Catalog} {record : Record} :
    record ∈ catalog.records ↔ ∃ leaf ∈ catalog.tree.leaves, leaf.2 = record := by
  unfold records packages
  rw [List.map_map, List.mem_map]
  rfl

/-- Every relinked package is one of the catalog, with the link of the request for it. -/
theorem Catalog.mem_records_relinked {catalog : Catalog} {request : Request} {base : String}
    {record : Record} (h : record ∈ (catalog.relinked request base).records) :
    ∃ target, ∃ original ∈ catalog.records,
      record.url = (requestFor request target original).link base := by
  unfold records packages relinked at h
  rw [update_eq, List.map_map, Tree.leaves_map, List.map_map] at h
  obtain ⟨leaf, hleaf, rfl⟩ := List.mem_map.mp h
  refine ⟨catalog.layout.target leaf.1.1 leaf.1.2.1 leaf.1.2.2, leaf.2, ?_, rfl⟩
  exact mem_records_iff.mpr ⟨leaf, hleaf, rfl⟩

end Package

end ReleaseGate
