namespace ReleaseGate

/-- Values under keys that ascend, so no key stands twice. Keys compare by code point. -/
structure Dict (α : Type) where
  entries : List (String × α)
  ascending : entries.Pairwise (·.1 < ·.1)
  deriving DecidableEq, Repr

namespace Dict

/-- The entries with `key` set to `value`. -/
def put {α : Type} (key : String) (value : α) : List (String × α) → List (String × α)
  | [] => [(key, value)]
  | (k, v) :: rest =>
    if key < k then (key, value) :: (k, v) :: rest
    else if key = k then (key, value) :: rest
    else (k, v) :: put key value rest

theorem mem_put {α : Type} {key : String} {value : α} {entries : List (String × α)}
    {e : String × α} (h : e ∈ put key value entries) : e = (key, value) ∨ e ∈ entries := by
  induction entries with
  | nil => simpa [put] using h
  | cons head rest ih =>
    obtain ⟨k, v⟩ := head
    simp only [put] at h
    split at h
    · simpa using h
    · split at h
      · rcases List.mem_cons.1 h with h | h
        · exact .inl h
        · exact .inr (List.mem_cons_of_mem _ h)
      · rcases List.mem_cons.1 h with h | h
        · exact .inr (h ▸ List.mem_cons_self)
        · rcases ih h with h | h
          · exact .inl h
          · exact .inr (List.mem_cons_of_mem _ h)

theorem ascending_put {α : Type} (key : String) (value : α) {entries : List (String × α)}
    (h : entries.Pairwise (·.1 < ·.1)) : (put key value entries).Pairwise (·.1 < ·.1) := by
  induction entries with
  | nil => simp [put]
  | cons head rest ih =>
    obtain ⟨k, v⟩ := head
    rw [List.pairwise_cons] at h
    simp only [put]
    split
    · rename_i lt
      refine List.pairwise_cons.2 ⟨fun e he => ?_, List.pairwise_cons.2 h⟩
      rcases List.mem_cons.1 he with rfl | he
      · exact lt
      · exact String.lt_trans lt (h.1 e he)
    · split
      · rename_i eq
        exact List.pairwise_cons.2 ⟨fun e he => eq ▸ h.1 e he, h.2⟩
      · rename_i notLt ne
        have lt : k < key := by
          rcases String.le_total key k with le | le
          · exact absurd (String.le_antisymm le (String.not_lt.1 notLt)) ne
          · exact String.not_le.1 fun ge => ne (String.le_antisymm ge le)
        refine List.pairwise_cons.2 ⟨fun e he => ?_, ih h.2⟩
        rcases mem_put he with rfl | he
        · exact lt
        · exact h.1 e he

theorem lookup_cons {α : Type} (key name : String) (value : α) (rest : List (String × α)) :
    ((name, value) :: rest).lookup key = if key = name then some value else rest.lookup key := by
  by_cases same : key = name
  · simp [same]
  · simp [List.lookup_cons, beq_eq_false_iff_ne.2 same, same]

theorem lookup_filter_ne {α : Type} (entries : List (String × α)) {key other : String}
    (h : other ≠ key) : (entries.filter (·.1 ≠ key)).lookup other = entries.lookup other := by
  induction entries with
  | nil => rfl
  | cons entry rest ih =>
    obtain ⟨name, value⟩ := entry
    rw [lookup_cons]
    by_cases same : name = key
    · subst same
      rw [List.filter_cons_of_neg (by simp), ih, if_neg h]
    · rw [List.filter_cons_of_pos (by simpa using same), lookup_cons, ih]

/-- Where no key stands twice, a key has the value it stands with. -/
theorem lookup_eq_some_iff_mem {α : Type} {entries : List (String × α)}
    (once : (entries.map (·.1)).Nodup) {key : String} {value : α} :
    entries.lookup key = some value ↔ (key, value) ∈ entries := by
  induction entries with
  | nil => simp
  | cons head rest ih =>
    obtain ⟨name, first⟩ := head
    rw [List.map_cons, List.nodup_cons] at once
    rw [lookup_cons, List.mem_cons, Prod.mk.injEq]
    split
    · rename_i same
      subst same
      have other : (key, value) ∉ rest := fun later => once.1 (List.mem_map.2 ⟨_, later, rfl⟩)
      simp [other, eq_comm]
    · rename_i different
      simp [different, ih once.2]

/-- A key is found where it was put, and every other where it was before. -/
theorem lookup_put {α : Type} (key wanted : String) (value : α) (entries : List (String × α)) :
    (put key value entries).lookup wanted =
      if wanted = key then some value else entries.lookup wanted := by
  induction entries with
  | nil => rw [put, lookup_cons]
  | cons head rest ih =>
    obtain ⟨k, v⟩ := head
    simp only [put]
    split
    · rw [lookup_cons]
    · split
      · rename_i eq
        subst eq
        simp only [lookup_cons]
        split <;> rfl
      · rename_i ne
        rw [lookup_cons, lookup_cons, ih]
        by_cases h : wanted = k
        · subst h
          have other : ¬ wanted = key := fun h => ne h.symm
          simp [other]
        · simp [h]

variable {α β : Type}

def empty : Dict α := ⟨[], .nil⟩

instance : Inhabited (Dict α) := ⟨empty⟩

def insert (d : Dict α) (key : String) (value : α) : Dict α :=
  ⟨put key value d.entries, ascending_put key value d.ascending⟩

def get? (d : Dict α) (key : String) : Option α := d.entries.lookup key

theorem get?_empty (key : String) : (empty : Dict α).get? key = none := rfl

theorem get?_insert (d : Dict α) (key wanted : String) (value : α) :
    (d.insert key value).get? wanted = if wanted = key then some value else d.get? wanted :=
  lookup_put key wanted value d.entries

/-- Of values under one key the last stays. -/
def ofList (entries : List (String × α)) : Dict α :=
  entries.foldl (fun d (key, value) => d.insert key value) empty

/-- Texts in ascending order, each once. -/
def distinct (texts : List String) : List String :=
  (texts.foldl (fun d text => d.insert text ()) empty).entries.map (·.1)

def map (f : String → α → β) (d : Dict α) : Dict β where
  entries := d.entries.map fun (key, value) => (key, f key value)
  ascending := List.pairwise_map.2 d.ascending

theorem get?_map (f : String → α → β) (d : Dict α) (key : String) :
    (d.map f).get? key = (d.get? key).map (f key) := by
  obtain ⟨entries, ascending⟩ := d
  simp only [get?, map]
  clear ascending
  induction entries with
  | nil => rfl
  | cons head rest ih =>
    rw [List.map_cons, lookup_cons, lookup_cons, ih]
    split
    · rename_i same
      rw [same, Option.map_some]
    · rfl

theorem map_map {γ : Type} (f : String → α → β) (g : String → β → γ) (d : Dict α) :
    (d.map f).map g = d.map fun key value => g key (f key value) := by
  simp only [map, List.map_map]
  rfl

/-- The entries with new values, which are made one after another. The keys stay. -/
def mapValuesM {m : Type → Type} [Monad m] (f : String → α → m β) :
    (entries : List (String × α)) →
      m { changed : List (String × β) // changed.map (·.1) = entries.map (·.1) }
  | [] => pure ⟨[], rfl⟩
  | (key, value) :: rest => do
    let new ← f key value
    let ⟨later, same⟩ ← mapValuesM f rest
    return ⟨(key, new) :: later, congrArg (key :: ·) same⟩

/-- The values are changed one after another, from the first key to the last. -/
def mapM {m : Type → Type} [Monad m] (f : String → α → m β) (d : Dict α) : m (Dict β) := do
  let ⟨entries, same⟩ ← mapValuesM f d.entries
  return ⟨entries, List.pairwise_map.1 (same ▸ List.pairwise_map.2 d.ascending)⟩

theorem mapValuesM_pure {m : Type → Type} [Monad m] [LawfulMonad m] (f : String → α → β)
    (entries : List (String × α)) :
    mapValuesM (m := m) (fun key value => pure (f key value)) entries =
      pure ⟨entries.map fun (key, value) => (key, f key value), by simp⟩ := by
  induction entries with
  | nil => rfl
  | cons entry rest ih => simp only [mapValuesM, ih, pure_bind, List.map_cons]

theorem mapM_pure {m : Type → Type} [Monad m] [LawfulMonad m] (f : String → α → β) (d : Dict α) :
    d.mapM (m := m) (fun key value => pure (f key value)) = pure (d.map f) := by
  simp only [mapM, mapValuesM_pure, pure_bind, map]

theorem nodup_keys (d : Dict α) : (d.entries.map (·.1)).Nodup := by
  refine List.pairwise_map.2 (d.ascending.imp fun less same => ?_)
  exact String.lt_irrefl _ (same ▸ less)

end Dict

end ReleaseGate
