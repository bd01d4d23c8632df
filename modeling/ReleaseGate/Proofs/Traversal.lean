import ReleaseGate.Proofs.Bytes
import ReleaseGate.Proofs.Relinked

/-! How the ways through a catalog agree: it is counted, listed and changed package by package in
one order, and of what is put into it under the same keys the last stays. -/

namespace ReleaseGate

variable {α β γ ι κ σ ω : Type}

/-- The second action does what the first does, and besides it takes notes that are right for what
comes of it. -/
def Notes (plain : StateM σ α) (noting : StateM (σ × List ω) α) (right : α → List ω → Prop) :
    Prop :=
  ∀ start notes, ∃ new,
    noting.run (start, notes) = ((plain.run start).1, (plain.run start).2, notes ++ new) ∧
    right (plain.run start).1 new

namespace Notes

variable {plain : StateM σ α} {noting : StateM (σ × List ω) α} {right : α → List ω → Prop}

theorem pure {value : α} (h : right value []) :
    Notes (σ := σ) (Pure.pure value) (Pure.pure value) right :=
  fun start notes => ⟨[], congrArg (value, start, ·) (List.append_nil notes).symm, h⟩

theorem imp {right' : α → List ω → Prop} (h : Notes plain noting right)
    (implies : ∀ value notes, right value notes → right' value notes) :
    Notes plain noting right' :=
  fun start notes => (h start notes).imp fun new => And.imp_right (implies _ new)

theorem bind {next : α → StateM σ β} {noting' : α → StateM (σ × List ω) β}
    {right' : β → List ω → Prop} (first : Notes plain noting right)
    (second : ∀ value notes, right value notes →
      Notes (next value) (noting' value) fun result later => right' result (notes ++ later)) :
    Notes (plain >>= next) (noting >>= noting') right' := by
  intro start notes
  obtain ⟨new, ran, fine⟩ := first start notes
  obtain ⟨later, ran', fine'⟩ := second _ new fine (plain.run start).2 (notes ++ new)
  refine ⟨new ++ later, ?_, fine'⟩
  rw [StateT.run_bind, StateT.run_bind, ran, ← List.append_assoc]
  exact ran'

end Notes

namespace Dict

variable {plain : String → α → StateM σ β} {noting : String → α → StateM (σ × List ω) β}
  {before : ω → ι} {after : ω → κ} {found : String → α → List ι} {left : String → β → List κ}
  {p : α → γ} {q : β → γ}

/-- Notes that are taken of each value are taken of all values in a row. What a value keeps, all
keep under their keys. -/
theorem notes_mapValuesM
    (each : ∀ key value, Notes (plain key value) (noting key value) fun new notes =>
      notes.map before = found key value ∧ notes.map after = left key new ∧ q new = p value)
    (entries : List (String × α)) :
    Notes (mapValuesM plain entries) (mapValuesM noting entries) fun changed notes =>
      notes.map before = (entries.flatMap fun (key, value) => found key value) ∧
      notes.map after = (changed.1.flatMap fun (key, new) => left key new) ∧
      changed.1.map (fun (key, new) => (key, q new)) =
        entries.map fun (key, value) => (key, p value) := by
  induction entries with
  | nil => exact .pure ⟨rfl, rfl, rfl⟩
  | cons entry rest ih =>
    refine (each entry.1 entry.2).bind fun new notes now => ih.bind fun changed later next => ?_
    refine .pure ⟨?_, ?_, ?_⟩
    · simp only [List.append_nil, List.map_append, List.flatMap_cons, now.1, next.1]
    · simp only [List.append_nil, List.map_append, List.flatMap_cons, now.2.1, next.2.1]
    · simp only [List.map_cons, now.2.2, next.2.2]

theorem notes_mapM
    (each : ∀ key value, Notes (plain key value) (noting key value) fun new notes =>
      notes.map before = found key value ∧ notes.map after = left key new ∧ q new = p value)
    (d : Dict α) :
    Notes (d.mapM plain) (d.mapM noting) fun changed notes =>
      notes.map before = (d.entries.flatMap fun (key, value) => found key value) ∧
      notes.map after = (changed.entries.flatMap fun (key, new) => left key new) ∧
      (changed.map fun _ => q) = d.map fun _ => p := by
  refine (notes_mapValuesM each d.entries).bind fun changed notes ⟨first, last, kept⟩ => .pure ?_
  rw [List.append_nil]
  exact ⟨first, last, mk.injEq .. ▸ kept⟩

end Dict

namespace Package

/-- The three keys of the package for a target. -/
def Target.keys (target : Target) : String × String × String :=
  (target.platform, target.platformVersion.getD target.architecture,
    target.packageManager.getD target.architecture)

theorem Layout.keys_target (layout : Layout) (a b c : String) :
    (layout.target a b c).keys = (a, b, c) := by
  cases layout <;> rfl

theorem Layout.target_eq_iff {layout : Layout} {a b c x y z : String} :
    layout.target a b c = layout.target x y z ↔ (a, b, c) = (x, y, z) := by
  constructor
  · intro same
    rw [← layout.keys_target a b c, same, layout.keys_target]
  · rintro ⟨⟩
    rfl

namespace Tree

/-- What is counted entry by entry is as much as there is in all of them. -/
theorem foldl_eq_length_flatMap {count : Nat → ι → Nat} {items : ι → List κ}
    (counts : ∀ n entry, count n entry = n + (items entry).length) (entries : List ι) (n : Nat) :
    entries.foldl count n = n + (entries.flatMap items).length := by
  induction entries generalizing n with
  | nil => rfl
  | cons entry rest ih =>
    rw [List.foldl_cons, ih, counts, List.flatMap_cons, List.length_append, Nat.add_assoc]

theorem size_eq_length_leaves (tree : Tree α) : tree.size = tree.leaves.length := by
  refine (foldl_eq_length_flatMap (fun n (_, middle) => ?_) tree.entries 0).trans (Nat.zero_add _)
  refine foldl_eq_length_flatMap (fun n (_, inner) => ?_) middle.entries n
  rw [List.length_map]

/-- Whether three keys come before three others. The first that differs decides, by its bytes. -/
def Before : String × String × String → String × String × String → Prop :=
  Prod.Lex (Text.byteOrder · · = .lt)
    (Prod.Lex (Text.byteOrder · · = .lt) (Text.byteOrder · · = .lt))

theorem ascending_leaves (tree : Tree α) : (tree.leaves.map (·.1)).Pairwise Before := by
  simp only [leaves, List.map_flatMap, List.map_map, List.pairwise_flatMap]
  refine ⟨fun first _ => ⟨fun second _ => ?_, ?_⟩, ?_⟩
  · refine List.pairwise_map.mpr (second.2.ascending.imp fun less => ?_)
    exact .right _ (.right _ (Text.byteOrder_of_lt less))
  · refine first.2.ascending.imp fun less keys among keys' among' => ?_
    obtain ⟨_, _, rfl⟩ := List.mem_map.mp among
    obtain ⟨_, _, rfl⟩ := List.mem_map.mp among'
    exact .right _ (.left _ _ (Text.byteOrder_of_lt less))
  · refine tree.ascending.imp fun less keys among keys' among' => ?_
    obtain ⟨_, _, below⟩ := List.mem_flatMap.mp among
    obtain ⟨_, _, rfl⟩ := List.mem_map.mp below
    obtain ⟨_, _, below'⟩ := List.mem_flatMap.mp among'
    obtain ⟨_, _, rfl⟩ := List.mem_map.mp below'
    exact .left _ _ (Text.byteOrder_of_lt less)

theorem Before.ne {k l : String × String × String} (h : Before k l) : k ≠ l := by
  rintro rfl
  obtain ⟨_, _, less⟩ | ⟨_, ⟨_, _, less⟩ | ⟨_, less⟩⟩ := h <;>
    rw [Text.byteOrder_self] at less <;> cases less

theorem nodup_leaves (tree : Tree α) : tree.leaves.Nodup :=
  List.Pairwise.of_map (·.1) (fun _ _ different same => different (congrArg (·.1) same))
    (tree.ascending_leaves.imp Before.ne)

/-- Under three keys there is one leaf, or none. -/
theorem map_leaves_under [DecidableEq α] (tree : Tree α) (a b c : String) :
    (tree.leaves.filter (·.1 = (a, b, c))).map (·.2) = (tree.get? a b c).toList := by
  cases there : tree.get? a b c with
  | none =>
    have absent : tree.leaves.filter (·.1 = (a, b, c)) = [] := by
      refine List.filter_eq_nil_iff.mpr ?_
      rintro ⟨_, value⟩ leaf same
      obtain rfl := of_decide_eq_true same
      rw [mem_leaves_iff, there] at leaf
      cases leaf
    rw [absent]
    rfl
  | some value =>
    have leaf := mem_leaves_iff.mpr there
    have only : tree.leaves.filter (·.1 = (a, b, c)) =
        tree.leaves.filter (· == ((a, b, c), value)) := by
      refine List.filter_congr ?_
      rintro ⟨⟨x, y, z⟩, other⟩ leaf'
      rw [mem_leaves_iff] at leaf'
      rw [Bool.eq_iff_iff, decide_eq_true_iff, beq_iff_eq]
      constructor
      · rintro ⟨⟩
        rw [there] at leaf'
        cases leaf'
        rfl
      · rintro ⟨⟩
        rfl
    rw [only, List.filter_beq, tree.nodup_leaves.count, if_pos leaf]
    rfl

/-- The tree that comes of putting values under three keys, one after another. -/
def filled (inserts : List ((String × String × String) × α)) : Tree α :=
  inserts.foldl (fun (tree : Tree α) ((a, b, c), value) => tree.insert a b c value) .empty

/-- Of what is put under three keys the last is the leaf. -/
theorem mem_leaves_filled {inserts : List ((String × String × String) × α)}
    {leaf : (String × String × String) × α} :
    leaf ∈ (filled inserts).leaves ↔ (inserts.filter (·.1 = leaf.1)).getLast? = some leaf := by
  obtain ⟨⟨a, b, c⟩, value⟩ := leaf
  have last : (filled inserts).get? a b c =
      ((inserts.filter (·.1 = (a, b, c))).getLast?.map (·.2)) := by
    have found := get?_foldl_insert (·.1.1) (·.1.2.1) (·.1.2.2) (·.2) inserts .empty a b c
    rw [get?_empty, Option.or_none] at found
    simp only [Prod.ext_iff]
    exact found
  rw [mem_leaves_iff, last, Option.map_eq_some_iff]
  constructor
  · rintro ⟨⟨_, _⟩, stands, rfl⟩
    obtain rfl := of_decide_eq_true (List.mem_filter.mp (List.mem_of_getLast? stands)).2
    exact stands
  · exact fun stands => ⟨_, stands, rfl⟩

/-- The leaves stand under the keys that something was put under. -/
theorem mem_keys_filled {inserts : List ((String × String × String) × α)}
    {keys : String × String × String} :
    keys ∈ (filled inserts).leaves.map (·.1) ↔ keys ∈ inserts.map (·.1) := by
  constructor
  · intro among
    obtain ⟨leaf, stands, rfl⟩ := List.mem_map.mp among
    have last := List.mem_of_getLast? (mem_leaves_filled.mp stands)
    exact List.mem_map_of_mem (List.mem_filter.mp last).1
  · intro among
    obtain ⟨insert, put, rfl⟩ := List.mem_map.mp among
    have candidate : insert ∈ inserts.filter (·.1 = insert.1) :=
      List.mem_filter.mpr ⟨put, decide_eq_true rfl⟩
    cases stands : (inserts.filter (·.1 = insert.1)).getLast? with
    | none => exact absurd (List.getLast?_eq_none_iff.mp stands) (List.ne_nil_of_mem candidate)
    | some last =>
      have same : last.1 = insert.1 :=
        of_decide_eq_true (List.mem_filter.mp (List.mem_of_getLast? stands)).2
      exact List.mem_map.mpr ⟨last, mem_leaves_filled.mpr (same ▸ stands), same⟩

/-- Two trees with the same keys on every level have the same outline. -/
theorem outline_eq_of_map_eq {tree : Tree α} {other : Tree β}
    (h : (other.map fun _ _ _ _ => ()) = tree.map fun _ _ _ _ => ()) :
    other.outline = tree.outline := by
  rw [← outline_map (fun _ _ _ _ => ()) other, h, outline_map]

theorem map_leaves (place : String → String → String → ι) (tree : Tree α) :
    (tree.leaves.map fun ((a, b, c), value) => (place a b c, value)) =
      tree.entries.flatMap fun (a, middle) => middle.entries.flatMap fun (b, inner) =>
        inner.entries.flatMap fun (c, value) => [(place a b c, value)] := by
  simp only [leaves, List.map_flatMap, List.map_map, Function.comp_def]
  simp only [List.map_eq_flatMap]

/-- Notes that are taken of each leaf are taken of all leaves in a row, and all keys stay. -/
theorem notes_mapM {plain : String → String → String → α → StateM σ β}
    {noting : String → String → String → α → StateM (σ × List ω) β} {before : ω → ι × α}
    {after : ω → ι × β} {place : String → String → String → ι}
    (each : ∀ a b c value, Notes (plain a b c value) (noting a b c value) fun new notes =>
      notes.map before = [(place a b c, value)] ∧ notes.map after = [(place a b c, new)])
    (tree : Tree α) :
    Notes (tree.mapM plain) (tree.mapM noting) fun changed notes =>
      notes.map before = (tree.leaves.map fun ((a, b, c), value) => (place a b c, value)) ∧
      notes.map after = (changed.leaves.map fun ((a, b, c), new) => (place a b c, new)) ∧
      changed.outline = tree.outline := by
  -- A value has no keys below it that could change.
  have single a b c value : Notes (plain a b c value) (noting a b c value) fun new notes =>
      notes.map before = [(place a b c, value)] ∧ notes.map after = [(place a b c, new)] ∧
      () = () :=
    (each a b c value).imp fun _ _ ⟨first, last⟩ => ⟨first, last, rfl⟩
  have inner a b := Dict.notes_mapM (single a b)
  have middle a := Dict.notes_mapM (inner a)
  refine (Dict.notes_mapM middle tree).imp fun changed notes ⟨first, last, kept⟩ => ?_
  rw [map_leaves, map_leaves]
  exact ⟨first, last, outline_eq_of_map_eq kept⟩

end Tree

/-- The turn of a package in a change: where it stands, what it was and what became of it. -/
structure Visit where
  target : Target
  found : Record
  left : Record
  deriving DecidableEq, Repr

namespace Catalog

/-- The change, with a note of every turn. -/
def noted (change : Target → Record → StateM σ Record) (target : Target) (found : Record) :
    StateM (σ × List Visit) Record := do
  let (state, visits) ← get
  let (left, next) := (change target found).run state
  set (next, visits ++ [⟨target, found, left⟩])
  return left

/-- The turns of the packages when a catalog is changed. -/
def visits (catalog : Catalog) (change : Target → Record → StateM σ Record) (start : σ) :
    List Visit :=
  ((catalog.updateM (noted change)).run (start, [])).2.2

theorem notes_noted (change : Target → Record → StateM σ Record) (target : Target)
    (found : Record) :
    Notes (change target found) (noted change target found) fun left notes =>
      notes.map (fun visit => (visit.target, visit.found)) = [(target, found)] ∧
      notes.map (fun visit => (visit.target, visit.left)) = [(target, left)] :=
  fun _ _ => ⟨[⟨target, found, _⟩], rfl, rfl, rfl⟩

theorem notes_updateM (catalog : Catalog) (change : Target → Record → StateM σ Record) :
    Notes (catalog.updateM change) (catalog.updateM (noted change)) fun changed notes =>
      notes.map (fun visit => (visit.target, visit.found)) = catalog.packages ∧
      notes.map (fun visit => (visit.target, visit.left)) = changed.packages ∧
      changed.layout = catalog.layout ∧ changed.tree.outline = catalog.tree.outline := by
  refine (Tree.notes_mapM
    (fun a b c found => notes_noted change (catalog.layout.target a b c) found)
    catalog.tree).bind fun tree notes ⟨first, last, kept⟩ => .pure ?_
  rw [List.append_nil]
  exact ⟨first, last, rfl, kept⟩

theorem size_eq_length_packages (catalog : Catalog) : catalog.size = catalog.packages.length := by
  unfold size packages
  rw [Tree.size_eq_length_leaves, List.length_map]

theorem ascending_packages (catalog : Catalog) :
    (catalog.packages.map fun package => package.1.keys).Pairwise Tree.Before := by
  unfold packages
  simp only [List.map_map, Function.comp_def, Layout.keys_target]
  exact catalog.tree.ascending_leaves

/-- For a target under three keys there is the package that is found under them. -/
theorem map_packages_for (catalog : Catalog) (a b c : String) :
    (catalog.packages.filter (·.1 = catalog.layout.target a b c)).map (·.2) =
      (catalog.tree.get? a b c).toList := by
  unfold packages
  simp only [List.filter_map, List.map_map, Function.comp_def, Layout.target_eq_iff]
  exact catalog.tree.map_leaves_under a b c

/-- Noting the turns of the packages changes nothing else. There is one turn for each package as it
was, in order, and one for each as it is then. No key changes. -/
theorem run_updateM_noted (catalog : Catalog) (change : Target → Record → StateM σ Record)
    (start : σ) :
    let visits := catalog.visits change start
    let (changed, last) := (catalog.updateM change).run start
    (catalog.updateM (noted change)).run (start, []) = (changed, last, visits) ∧
    visits.map (fun visit => (visit.target, visit.found)) = catalog.packages ∧
    visits.map (fun visit => (visit.target, visit.left)) = changed.packages ∧
    changed.layout = catalog.layout ∧ changed.tree.outline = catalog.tree.outline := by
  obtain ⟨visits, ran, right⟩ := notes_updateM catalog change start []
  have same : catalog.visits change start = visits := congrArg (·.2.2) ran
  rw [same]
  exact ⟨ran, right⟩

/-- A catalog is counted, listed and changed alike. Its size is the number of its records and that
of the turns in any change, and only without any it is empty. The turns come in the order of the
records, their keys ascend, and each package has one turn, under its own keys. A change leaves of
each package what its turn makes of it, and leaves all keys, those with nothing below them included.
A tree that is filled from nothing has a leaf for each three keys that something was put under, and
it is what was put there last. -/
theorem traversals_agree :
    (∀ (catalog : Catalog) {σ : Type} (change : Target → Record → StateM σ Record) (start : σ),
      let visits := catalog.visits change start
      let (changed, last) := (catalog.updateM change).run start
      (catalog.updateM (noted change)).run (start, []) = (changed, last, visits) ∧
      catalog.size = catalog.records.length ∧ catalog.size = visits.length ∧
      (catalog.isEmpty = true ↔ visits.length = 0) ∧
      visits.map (·.found) = catalog.records ∧
      (visits.map (·.target.keys)).Pairwise Tree.Before ∧
      (∀ a b c, (visits.filter (·.target = catalog.layout.target a b c)).map (·.found) =
        (catalog.tree.get? a b c).toList) ∧
      visits.map (fun visit => (visit.target, visit.left)) = changed.packages ∧
      changed.layout = catalog.layout ∧ changed.tree.outline = catalog.tree.outline) ∧
    ∀ inserts : List ((String × String × String) × Record),
      ((Tree.filled inserts).leaves.map (·.1)).Pairwise Tree.Before ∧
      (∀ keys, keys ∈ (Tree.filled inserts).leaves.map (·.1) ↔ keys ∈ inserts.map (·.1)) ∧
      ∀ leaf, leaf ∈ (Tree.filled inserts).leaves ↔
        (inserts.filter (·.1 = leaf.1)).getLast? = some leaf := by
  refine ⟨fun catalog σ change start => ?_, fun inserts =>
    ⟨Tree.ascending_leaves _, fun _ => Tree.mem_keys_filled, fun _ => Tree.mem_leaves_filled⟩⟩
  obtain ⟨noted, first, last, layout, outline⟩ := run_updateM_noted catalog change start
  intro visits
  have size : catalog.size = visits.length := by
    rw [size_eq_length_packages, ← first, List.length_map]
  have records : visits.map (·.found) = catalog.records := by
    unfold Catalog.records
    rw [← first, List.map_map]
    rfl
  refine ⟨noted, ?_, size, ?_, records, ?_, fun a b c => ?_, last, layout, outline⟩
  · rw [← records, List.length_map, size]
  · rw [isEmpty, beq_iff_eq, size]
  · have ascending := catalog.ascending_packages
    rwa [← first, List.map_map] at ascending
  · rw [← map_packages_for, ← first, List.filter_map, List.map_map]
    rfl

/-- Turns can be numbered; a platform without packages has none. -/
example :
    let tree : Tree Record := Dict.insert (Tree.filled
      [(("linux", "x86_64", "rpm"), {}), (("linux", "x86_64", "deb"), {})]) "aix" .empty
    (visits ⟨.byPackageManager, tree⟩
        (fun _ record => modifyGet fun n => ({ record with url := toString n }, n + 1)) 0).map
        (fun visit => (visit.target.packageManager, visit.left.url)) =
      [(some "deb", "0"), (some "rpm", "1")] := by decide

end Catalog

end Package

end ReleaseGate
