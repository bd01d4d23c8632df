import ReleaseGate.Proofs.Run
import ReleaseGate.Store.Table

/-! What is read from a store says what the store holds. -/

namespace ReleaseGate.Json

variable {slots : List (String × Bool × Shape)} {key : String}
  {fields done out : List (String × Json)}

/-- A field that a record knows is read once and in its shape, or it is not there. -/
theorem lookup_decodeRecord {needed : Bool} {shape : Shape}
    (slot : slots.lookup key = some (needed, shape))
    (h : (documentFields fields).decodeRecord none slots done = .ok out) :
    (fields.lookup key = none ∧ out.lookup key = done.lookup key) ∨
    ∃ value read, fields.lookup key = some value ∧ done.lookup key = none ∧
      value.document.decode none shape = .ok read ∧ out.lookup key = some read := by
  induction fields generalizing done with
  | nil =>
    simp only [documentFields, Fields.decodeRecord] at h
    split at h
    · cases h
    · cases h
      exact .inl ⟨rfl, rfl⟩
  | cons field fields ih =>
    obtain ⟨name, given⟩ := field
    simp only [documentFields, Fields.decodeRecord] at h
    rw [Dict.lookup_cons]
    split at h
    · rename_i unknown
      have other : key ≠ name := by
        rintro rfl
        rw [slot] at unknown
        cases unknown
      rw [if_neg other]
      split at h
      · cases h
      · exact ih h
    · rename_i known
      split at h
      · cases h
      · rename_i fresh
        split at h
        · cases h
        · rename_i first decoded
          have later := ih h
          rw [Dict.lookup_put] at later
          by_cases same : key = name
          · subst same
            rw [slot] at known
            cases known
            rw [if_pos rfl] at later ⊢
            obtain ⟨-, found⟩ | ⟨_, _, _, again, _⟩ := later
            · have absent := Option.not_isSome_iff_eq_none.mp fresh
              exact .inr ⟨given, first, rfl, absent, decoded, found⟩
            · cases again
          · rw [if_neg same] at later ⊢
            exact later

/-- A field that must be there is there when a record has been read. -/
theorem isSome_of_decodeRecord {shape : Shape} (slot : slots.lookup key = some (true, shape))
    (h : (documentFields fields).decodeRecord none slots done = .ok out) :
    (out.lookup key).isSome = true := by
  induction fields generalizing done with
  | nil =>
    simp only [documentFields, Fields.decodeRecord] at h
    split at h
    · cases h
    · rename_i complete
      cases h
      rw [absent?, Option.map_eq_none_iff, List.find?_eq_none] at complete
      obtain ⟨before, after, split, -⟩ := List.lookup_eq_some_iff.mp slot
      have inside : (key, true, shape) ∈ slots := by simp [split]
      simpa using complete _ inside
  | cons field fields ih =>
    simp only [documentFields, Fields.decodeRecord] at h
    split at h
    · split at h
      · cases h
      · exact ih h
    · split at h
      · cases h
      · split at h
        · cases h
        · exact ih h

/-- A text that must be there stands in the record as it is read. -/
theorem lookup_text_of_decodeRecord (slot : slots.lookup key = some (true, .text))
    (h : (documentFields fields).decodeRecord none slots [] = .ok out) :
    ∃ s, fields.lookup key = some (.text s) ∧ out.lookup key = some (.text s) := by
  obtain ⟨-, lost⟩ | ⟨value, read, given, -, decoded, found⟩ := lookup_decodeRecord slot h
  · have there := isSome_of_decodeRecord slot h
    rw [lost] at there
    cases there
  · cases value with
    | text s =>
      cases decoded
      exact ⟨s, given, found⟩
    | _ => cases decoded

end ReleaseGate.Json

namespace ReleaseGate.Store

open Json (Shape)

/-- A record of an item says the version that the item says. -/
def Model.Faithful {α : Type} (model : Model α) : Prop :=
  ∀ {item value : Json} {version : String}, Json.reshape model.shape item = .ok value →
    holds item "version" version = true → model.version (model.ofJson value) = version

theorem eq_of_holds {item : Json} {key first other : String} (one : holds item key first = true)
    (two : holds item key other = true) : first = other := by
  simp only [holds, beq_iff_eq] at one two
  exact Option.some_inj.mp (one.symm.trans two)

/-- The version that an item is read to have stands in the item. -/
theorem holds_textAt_version {title : String} {files : Shape} {item value : Json}
    (h : Json.reshape (releaseShape title files) item = .ok value) {key text : String}
    (held : holds item key text = true) : holds item "version" (value.textAt "version") = true := by
  cases item with
  | record fields =>
    simp only [Json.reshape, releaseShape, Json.document, Json.Document.decode, Json.deeper,
      bind, Except.bind] at h
    split at h
    · cases h
    · rename_i out decoded
      cases h
      have slot : List.lookup "version" [("product", true, Shape.text), ("version", true, .text),
        ("metadata", false, files)] = some (true, .text) := rfl
      obtain ⟨version, given, read⟩ := Json.lookup_text_of_decodeRecord slot decoded
      simp [holds, Json.textAt, Json.field?, given, read, Json.text?]
  | _ => simp [holds, Json.field?] at held

theorem textAt_version {title : String} {files : Shape} {item value : Json} {version : String}
    (h : Json.reshape (releaseShape title files) item = .ok value)
    (held : holds item "version" version = true) : value.textAt "version" = version :=
  eq_of_holds (holds_textAt_version h held) held

theorem fileRelease_faithful : FileRelease.model.Faithful :=
  fun h held => textAt_version h held

theorem managedRelease_faithful : ManagedRelease.model.Faithful :=
  fun h held => textAt_version h held

/-- The questions to a store are answered by this one. -/
structure Backs (store : Store) (answers : Answers) : Prop where
  item : ∀ table product version,
    answers (.item table product version) = .ok (store.item? table product version)
  scan : ∀ table filter, answers (.scan table filter) = .ok (store.scan table filter)

/-- The answers of a store that stands alone. -/
def answers (store : Store) : Answers
  | .item table product version => .ok (store.item? table product version)
  | .scan table filter => .ok (store.scan table filter)
  | _ => .error .noCandidates

theorem backs_answers (store : Store) : store.Backs store.answers :=
  ⟨fun _ _ _ => rfl, fun _ _ => rfl⟩

theorem holds_of_item? {store : Store} {table product version : String} {item : Json}
    (h : store.item? table product version = some item) : holds item "version" version = true := by
  have found := List.find?_some h
  rw [Bool.and_eq_true] at found
  exact found.2

theorem greatest_foldl (first : String) (rest : List String) :
    let best := rest.foldl (fun best text => if best < text then text else best) first
    best ∈ first :: rest ∧ ∀ other ∈ first :: rest, other ≤ best := by
  induction rest generalizing first with
  | nil => simp
  | cons next rest ih =>
    simp only [List.foldl_cons]
    by_cases less : first < next
    · obtain ⟨among, above⟩ := ih next
      rw [if_pos less]
      refine ⟨List.mem_cons_of_mem _ among, List.forall_mem_cons.mpr ⟨?_, above⟩⟩
      have least : first ≤ next := String.not_lt.mp (String.lt_asymm less)
      exact String.le_trans least (above next List.mem_cons_self)
    · obtain ⟨among, above⟩ := ih first
      rw [if_neg less]
      rw [List.forall_mem_cons] at above
      have least : next ≤ first := String.not_lt.mp less
      refine ⟨?_, List.forall_mem_cons.mpr
        ⟨above.1, List.forall_mem_cons.mpr ⟨String.le_trans least above.1, above.2⟩⟩⟩
      obtain same | later := List.mem_cons.mp among
      · rw [same]
        exact List.mem_cons_self
      · exact List.mem_cons_of_mem _ (List.mem_cons_of_mem _ later)

/-- The greatest text is one of the texts, and none of them is greater. -/
theorem greatest?_eq_some_iff {texts : List String} {text : String} :
    greatest? texts = some text ↔ text ∈ texts ∧ ∀ other ∈ texts, other ≤ text := by
  cases texts with
  | nil => simp [greatest?]
  | cons first rest =>
    obtain ⟨among, above⟩ := greatest_foldl first rest
    unfold greatest?
    rw [Option.some_inj]
    constructor
    · rintro rfl
      exact ⟨among, above⟩
    · rintro ⟨member, largest⟩
      exact String.le_antisymm (largest _ among) (above _ member)

variable {α : Type} {table : Table α} {store : Store}
  {answers : Answers}

theorem reshape_of_read {item : Json} {record : α} (h : table.read item = .ok record) :
    ∃ value, Json.reshape table.model.shape item = .ok value ∧
      record = table.model.ofJson value := by
  unfold Table.read decode at h
  split at h
  · rename_i value reshaped
    cases h
    exact ⟨value, reshaped, rfl⟩
  · cases h

/-- The record of a version says that version. -/
theorem version_of_get (backs : store.Backs answers) (faithful : table.model.Faithful)
    {product version : String} {record : α}
    (h : (table.get product version).outcome answers = .ok (some record)) :
    table.model.version record = version := by
  unfold Table.get at h
  obtain ⟨item, asked, h⟩ := Action.outcome_bind_eq_ok.mp h
  rw [Action.outcome_get, backs.item] at asked
  cases asked
  split at h
  · cases h
  · rename_i item found
    obtain ⟨read, decoded, same⟩ := Action.outcome_bind_eq_ok.mp h
    cases same
    obtain ⟨value, reshaped, rfl⟩ := reshape_of_read decoded
    exact faithful reshaped (holds_of_item? found)

/-- The latest version is the greatest that is stored. -/
theorem greatest_of_latest (backs : store.Backs answers) (faithful : table.model.Faithful)
    {product version : String} (h : (table.latest product).outcome answers = .ok version) :
    ∃ versions, (table.versions product).outcome answers = .ok versions ∧
      greatest? versions = some version := by
  unfold Table.latest at h
  obtain ⟨versions, listed, h⟩ := Action.outcome_bind_eq_ok.mp h
  refine ⟨versions, listed, ?_⟩
  split at h
  · cases h
  · rename_i newest greatest
    obtain ⟨record, found, h⟩ := Action.outcome_bind_eq_ok.mp h
    cases record with
    | none => cases h
    | some record =>
      cases h
      rw [version_of_get backs faithful found]
      exact greatest

end ReleaseGate.Store
