import ReleaseGate.Proofs.Bytes
import ReleaseGate.Proofs.Shelf

/-! What a table has as the latest version of a product, said by the items that are stored. -/

namespace ReleaseGate.Store

open Json (Shape)

/-- Items are read as records of a release: they have a product, a version and, under `metadata`,
whatever else there is. -/
structure Model.Release {α : Type} (model : Model α) : Prop where
  shape : ∃ title files, model.shape = releaseShape title files
  plain : model.Plain

theorem fileRelease_release : FileRelease.model.Release := ⟨⟨_, _, rfl⟩, fileRelease_plain⟩

theorem managedRelease_release : ManagedRelease.model.Release := ⟨⟨_, _, rfl⟩, managedRelease_plain⟩

/-- The version stands in an item about the product. -/
def HasVersion (store : Store) (table product version : String) : Prop :=
  ∃ item ∈ store.stock table product, holds item "version" version = true

/-- The greatest, by its bytes, of the versions that stand in the items about a product. -/
structure GreatestVersion (store : Store) (table product version : String) : Prop where
  stored : store.HasVersion table product version
  greatest : ∀ other, store.HasVersion table product other →
    (Text.byteOrder other version).isLE = true

variable {α : Type} {table : Table α} {store : Store} {answers : Answers} {product : String}

/-- Every item about the product can be read. -/
def Table.Readable (table : Table α) (store : Store) (product : String) : Prop :=
  ∀ item ∈ store.stock table.name product, ∃ record, table.read item = .ok record

/-- The latest version of a product in a table, with another failure for a version that is listed
and not there. -/
def Table.latestOr (lost : String → Failure) (table : Table α) (product : String) :
    Action String := do
  match greatest? (← table.versions product) with
  | none => .fail (.missing ("No versions recorded for " ++ product))
  | some newest =>
    match ← table.get product newest with
    | none => .fail (lost newest)
    | some record => return table.model.version record

theorem latest_eq (table : Table α) (product : String) :
    table.latest product = table.latestOr
      (fun newest => .backend backend (product ++ " " ++ newest ++ " listed but not readable"))
      product := rfl

theorem Model.Release.faithful {model : Model α} (release : model.Release) : model.Faithful := by
  intro item value version read held
  obtain ⟨title, files, shape⟩ := release.shape
  rw [shape] at read
  rw [release.plain, textAt_version read held]

/-- A version that was read stands in the item. -/
theorem holds_of_read (release : table.model.Release) {item : Json} {record : α}
    (about : item ∈ store.stock table.name product) (h : table.read item = .ok record) :
    holds item "version" (table.model.version record) = true := by
  obtain ⟨title, files, shape⟩ := release.shape
  obtain ⟨value, reshaped, rfl⟩ := reshape_of_read h
  rw [shape] at reshaped
  rw [release.plain]
  exact holds_textAt_version reshaped (List.mem_filter.mp about).2

theorem refusal_of_read {item : Json} {f : α → String} {failure : Failure}
    (h : (table.read item).map f = .error failure) :
    ∃ refusal, Json.reshape table.model.shape item = .error refusal ∧
      failure = .backend backend
        ("Failed to decode item of " ++ table.name ++ ": " ++ refusal.message) := by
  unfold Table.read decode at h
  split at h
  · cases h
  · rename_i refusal unread
    cases h
    exact ⟨refusal, unread, rfl⟩

/-- Items are read one after the other, up to the first that cannot be read. -/
theorem mapM_cases {α β : Type} (f : α → Except Failure β) (items : List α) :
    (∃ values, items.mapM f = .ok values ∧ (∀ item ∈ items, ∃ value, f item = .ok value) ∧
      ∀ value, value ∈ values ↔ ∃ item ∈ items, f item = .ok value) ∨
    ∃ item ∈ items, ∃ failure, f item = .error failure ∧ items.mapM f = .error failure := by
  induction items with
  | nil => exact .inl ⟨[], rfl, by simp, by simp⟩
  | cons item items ih =>
    rw [List.mapM_cons]
    cases first : f item with
    | error failure => exact .inr ⟨item, List.mem_cons_self, failure, first, rfl⟩
    | ok value =>
      obtain ⟨values, rest, read, mem⟩ | ⟨later, inside, failure, failed, rest⟩ := ih
      · rw [rest]
        refine .inl ⟨value :: values, rfl, List.forall_mem_cons.mpr ⟨⟨value, first⟩, read⟩, ?_⟩
        intro other
        simp [mem, first, eq_comm]
      · rw [rest]
        exact .inr ⟨later, List.mem_cons_of_mem _ inside, failure, failed, rfl⟩

theorem greatest?_eq_none_iff {texts : List String} : greatest? texts = none ↔ texts = [] := by
  cases texts <;> simp [greatest?]

theorem map_eq_ok {β γ : Type} {result : Except Failure β} {f : β → γ} {value : γ} :
    result.map f = .ok value ↔ ∃ given, result = .ok given ∧ f given = value := by
  cases result <;> simp [Except.map]

/-- A version stands in an item that can be read exactly if the record of the item has it. -/
theorem read_version_iff (release : table.model.Release) {item : Json}
    (about : item ∈ store.stock table.name product)
    (readable : ∃ record, table.read item = .ok record) (version : String) :
    (table.read item).map table.model.version = .ok version ↔
      holds item "version" version = true := by
  obtain ⟨record, read⟩ := readable
  have held := holds_of_read release about read
  rw [map_eq_ok]
  constructor
  · rintro ⟨_, again, rfl⟩
    rw [read] at again
    cases again
    exact held
  · intro stands
    exact ⟨record, read, eq_of_holds held stands⟩

/-- If all items about a product can be read, the versions that stand in them are listed. -/
theorem exists_versions (backs : store.Backs answers) (release : table.model.Release)
    (readable : table.Readable store product) :
    ∃ versions, (table.versions product).outcome answers = .ok versions ∧
      ∀ version, version ∈ versions ↔ store.HasVersion table.name product version := by
  rw [outcome_versions_read backs]
  obtain ⟨versions, listed, -, mem⟩ | ⟨item, about, failure, failed, -⟩ :=
    mapM_cases (fun item => (table.read item).map table.model.version)
      (store.stock table.name product)
  · refine ⟨versions, listed, fun version => (mem version).trans ?_⟩
    refine exists_congr fun item => and_congr_right fun about => ?_
    exact read_version_iff release about (readable item about) version
  · obtain ⟨record, read⟩ := readable item about
    rw [read] at failed
    cases failed

/-- A version that stands in an item has a record, though the item need not be the first of that
version. -/
theorem get_of_hasVersion (backs : store.Backs answers) (release : table.model.Release)
    (readable : table.Readable store product) {version : String}
    (stored : store.HasVersion table.name product version) :
    ∃ record, (table.get product version).outcome answers = .ok (some record) ∧
      table.model.version record = version := by
  obtain ⟨item, found⟩ := Option.isSome_iff_exists.mp (List.find?_isSome.mpr stored)
  obtain ⟨record, read⟩ := readable item (List.mem_of_find?_eq_some found)
  have got : (table.get product version).outcome answers = .ok (some record) := by
    unfold Table.get
    rw [Action.outcome_bind, Action.outcome_get, backs.item, item?_eq_stock, found]
    exact Action.outcome_bind_eq_ok.mpr ⟨record, read, rfl⟩
  exact ⟨record, got, version_of_get backs release.faithful got⟩

/-- If all items about a product can be read, the latest version is the greatest of those that
stand in them, whatever would be said of a version without a record. -/
theorem outcome_latestOr_of_readable (backs : store.Backs answers) (release : table.model.Release)
    (readable : table.Readable store product) :
    (store.stock table.name product = [] ∧
      ∀ lost, (table.latestOr lost product).outcome answers =
        .error (.missing ("No versions recorded for " ++ product))) ∨
    ∃ version, store.GreatestVersion table.name product version ∧
      ∀ lost, (table.latestOr lost product).outcome answers = .ok version := by
  obtain ⟨versions, listed, mem⟩ := exists_versions backs release readable
  unfold Table.latestOr
  simp only [Action.outcome_bind, listed, Except.bind]
  cases best : greatest? versions with
  | none =>
    refine .inl ⟨List.eq_nil_iff_forall_not_mem.mpr fun item about => ?_, fun _ => rfl⟩
    obtain ⟨record, read⟩ := readable item about
    have version := (mem _).mpr ⟨item, about, holds_of_read release about read⟩
    rw [greatest?_eq_none_iff.mp best] at version
    cases version
  | some newest =>
    obtain ⟨among, above⟩ := greatest?_eq_some_iff.mp best
    obtain ⟨record, got, same⟩ := get_of_hasVersion backs release readable ((mem newest).mp among)
    refine .inr ⟨newest, ⟨(mem newest).mp among, fun other stored => ?_⟩, fun lost => ?_⟩
    · exact Text.byteOrder_isLE_of_le (above other ((mem other).mpr stored))
    · refine Action.outcome_bind_eq_ok.mpr ⟨some record, got, ?_⟩
      rw [← same]
      rfl

/-- An item that cannot be read is told of, or one before it, and no version. -/
theorem outcome_latestOr_of_refused (backs : store.Backs answers) {item : Json}
    (about : item ∈ store.stock table.name product)
    (refused : ∀ record, table.read item ≠ .ok record) :
    ∃ other ∈ store.stock table.name product, ∃ refusal,
      Json.reshape table.model.shape other = .error refusal ∧
      ∀ lost, (table.latestOr lost product).outcome answers = .error (.backend backend
        ("Failed to decode item of " ++ table.name ++ ": " ++ refusal.message)) := by
  have versions := outcome_versions_read backs table product
  obtain ⟨_, _, read, -⟩ | ⟨other, inside, failure, failed, all⟩ :=
    mapM_cases (fun item => (table.read item).map table.model.version)
      (store.stock table.name product)
  · obtain ⟨version, done⟩ := read item about
    obtain ⟨record, given, -⟩ := map_eq_ok.mp done
    exact absurd given (refused record)
  · rw [all] at versions
    obtain ⟨refusal, unread, rfl⟩ := refusal_of_read failed
    refine ⟨other, inside, refusal, unread, fun lost => ?_⟩
    unfold Table.latestOr
    rw [Action.outcome_bind, versions]
    rfl

/-- The latest version of a product in a table: if nothing is stored about the product there is
none, and if all that is stored about it can be read it is the greatest version, by bytes, that is
stored. An item that cannot be read is a failure of the store. That a version is listed and has no
record never happens: another failure in its place makes no difference. -/
theorem latest_of_stock (backs : store.Backs answers) (release : table.model.Release)
    (product : String) :
    ((table.latest product).outcome answers =
        .error (.missing ("No versions recorded for " ++ product)) ↔
      store.stock table.name product = []) ∧
    (table.Readable store product → store.stock table.name product ≠ [] →
      ∃ version, store.GreatestVersion table.name product version ∧
        (table.latest product).outcome answers = .ok version) ∧
    (¬ table.Readable store product →
      ∃ item ∈ store.stock table.name product, ∃ refusal,
        Json.reshape table.model.shape item = .error refusal ∧
        (table.latest product).outcome answers = .error (.backend backend
          ("Failed to decode item of " ++ table.name ++ ": " ++ refusal.message))) ∧
    (∀ lost, (table.latestOr lost product).outcome answers =
      (table.latest product).outcome answers) := by
  rw [latest_eq]
  by_cases readable : table.Readable store product
  · obtain ⟨empty, missing⟩ | ⟨version, greatest, found⟩ :=
      outcome_latestOr_of_readable backs release readable
    · simp only [missing]
      exact ⟨iff_of_true trivial empty, fun _ stocked => absurd empty stocked,
        fun unread => absurd readable unread, fun _ => trivial⟩
    · obtain ⟨item, about, -⟩ := greatest.stored
      simp only [found]
      exact ⟨iff_of_false nofun (List.ne_nil_of_mem about),
        fun _ _ => ⟨version, greatest, rfl⟩, fun unread => absurd readable unread,
        fun _ => trivial⟩
  · obtain ⟨item, about, refused⟩ :
        ∃ item ∈ store.stock table.name product, ∀ record, table.read item ≠ .ok record := by
      simpa [Table.Readable] using readable
    obtain ⟨other, inside, refusal, unread, told⟩ := outcome_latestOr_of_refused backs about refused
    simp only [told]
    exact ⟨iff_of_false nofun (List.ne_nil_of_mem about), fun read => absurd read readable,
      fun _ => ⟨other, inside, refusal, unread, rfl⟩, fun _ => trivial⟩

/-- One version stands in two items, and an item about another product says no version. -/
def sharedVersion : Store :=
  ⟨[("metadata-details", [release "0.9", .record [("product", .text "chef")], release "0.10",
    release "0.9", .list [.text "habitat"]])]⟩
where
  release (version : String) : Json :=
    .record [("product", .text "habitat"), ("version", .text version)]

theorem latest_of_sharedVersion :
    let table : Table FileRelease := ⟨"metadata-details", FileRelease.model⟩
    (∃ version, sharedVersion.GreatestVersion "metadata-details" "habitat" version ∧
      (table.latest "habitat").outcome sharedVersion.answers = .ok version) ∧
    ∃ item ∈ sharedVersion.stock "metadata-details" "chef", ∃ refusal,
      Json.reshape table.model.shape item = .error refusal ∧
      (table.latest "chef").outcome sharedVersion.answers = .error (.backend backend
        ("Failed to decode item of metadata-details: " ++ refusal.message)) := by
  intro table
  have habitat : sharedVersion.stock "metadata-details" "habitat" =
      [sharedVersion.release "0.9", sharedVersion.release "0.10", sharedVersion.release "0.9"] := by
    rfl
  have readable : table.Readable sharedVersion "habitat" := by
    intro item member
    rw [habitat] at member
    simp only [List.mem_cons, List.not_mem_nil, or_false] at member
    obtain rfl | rfl | rfl := member
    all_goals exact ⟨_, rfl⟩
  have unread : ¬ table.Readable sharedVersion "chef" := by
    intro readable
    obtain ⟨_, read⟩ := readable (.record [("product", .text "chef")]) (List.mem_singleton_self _)
    cases read
  have stocked : sharedVersion.stock table.name "habitat" ≠ [] := by
    rw [habitat]
    exact List.cons_ne_nil _ _
  exact ⟨(latest_of_stock (backs_answers _) fileRelease_release "habitat").2.1 readable stocked,
    (latest_of_stock (backs_answers _) fileRelease_release "chef").2.2.1 unread⟩

end ReleaseGate.Store
