import ReleaseGate.Gateway
import ReleaseGate.Proofs.Stored

/-! Where in a store the releases of a product are kept. -/

namespace ReleaseGate

namespace Store

variable {store : Store} {answers : Answers}

/-- The items of a table that are about a product. -/
def stock (store : Store) (table product : String) : List Json :=
  (store.items table).filter (holds · "product" product)

/-- An item is looked for among those about its product. -/
theorem item?_eq_stock (store : Store) (table product version : String) :
    store.item? table product version =
      (store.stock table product).find? (holds · "version" version) := by
  unfold item? stock
  simp only [List.find?_filter, Bool.decide_and, Bool.decide_eq_true]

theorem items_insert_self (store : Store) (table : String) (item : Json) :
    (store.insert table item).items table = store.items table ++ [item] := by
  unfold insert
  simp [items]

theorem items_insert_other (store : Store) {table other : String} (item : Json)
    (h : other ≠ table) : (store.insert table item).items other = store.items other := by
  unfold insert
  simp only [items, Dict.lookup_cons, if_neg h, Dict.lookup_filter_ne store.tables h]

/-- What is inserted in another table or about another product is not among the items of a
product. -/
theorem stock_insert (store : Store) {table other product : String} {item : Json}
    (h : other = table → holds item "product" product = false) :
    (store.insert table item).stock other product = store.stock other product := by
  unfold stock
  by_cases same : other = table
  · rw [same, items_insert_self, List.filter_append, List.filter_cons_of_neg (by simp [h same]),
      List.filter_nil, List.append_nil]
  · rw [items_insert_other store item same]

theorem mapM_eq_filterMap {α β : Type} {f : α → Except Failure β} {items : List α}
    (h : ∀ item ∈ items, ∃ value, f item = .ok value) :
    items.mapM f = .ok (items.filterMap fun item => (f item).toOption) := by
  induction items with
  | nil => rfl
  | cons item items ih =>
    obtain ⟨⟨value, first⟩, rest⟩ := List.forall_mem_cons.mp h
    rw [List.mapM_cons, first, ih rest, List.filterMap_cons_some (by rw [first]; rfl)]
    rfl

/-- A table of releases, with the shape of its items. -/
structure Shelf where
  table : String
  shape : Json.Shape

namespace Shelf

/-- The version that an item says, if the item can be read. -/
def version (shelf : Shelf) (item : Json) : Except Failure String :=
  (decode shelf.table shelf.shape item).map (·.textAt "version")

/-- The versions of a product, in the order of the table. One item that cannot be read is enough
for there to be none. -/
def versions (shelf : Shelf) (store : Store) (product : String) : Except Failure (List String) :=
  (store.stock shelf.table product).mapM shelf.version

/-- Every item about the product can be read. -/
def Readable (shelf : Shelf) (store : Store) (product : String) : Prop :=
  ∀ item ∈ store.stock shelf.table product, ∃ version, shelf.version item = .ok version

/-- The versions that the items about a product say. -/
def recorded (shelf : Shelf) (store : Store) (product : String) : List String :=
  (store.stock shelf.table product).filterMap fun item => (shelf.version item).toOption

theorem versions_of_readable {shelf : Shelf} {product : String}
    (h : shelf.Readable store product) :
    shelf.versions store product = .ok (shelf.recorded store product) :=
  mapM_eq_filterMap h

section Reordered

variable {shelf : Shelf} {other : Store} {product : String}

theorem Readable.perm (h : shelf.Readable store product)
    (perm : (other.items shelf.table).Perm (store.items shelf.table)) :
    shelf.Readable other product :=
  fun item member => h item ((perm.filter _).mem_iff.mp member)

theorem recorded_perm (perm : (other.items shelf.table).Perm (store.items shelf.table)) :
    (shelf.recorded other product).Perm (shelf.recorded store product) :=
  (perm.filter _).filterMap _

end Reordered

end Shelf

/-- The version of a record is what stands in its version field. -/
def Model.Plain {α : Type} (model : Model α) : Prop :=
  ∀ value, model.version (model.ofJson value) = value.textAt "version"

theorem fileRelease_plain : FileRelease.model.Plain := fun _ => rfl

theorem managedRelease_plain : ManagedRelease.model.Plain := fun _ => rfl

def Table.shelf {α : Type} (table : Table α) : Shelf := ⟨table.name, table.model.shape⟩

/-- The versions of a product are read from the items about it. -/
theorem outcome_versions_read {α : Type} (backs : store.Backs answers) (table : Table α)
    (product : String) :
    (table.versions product).outcome answers =
      (store.stock table.name product).mapM fun item =>
        (table.read item).map table.model.version := by
  unfold Table.versions
  rw [Action.outcome_bind, Action.outcome_get, backs.scan]
  rfl

theorem outcome_versions {α : Type} {table : Table α} (backs : store.Backs answers)
    (plain : table.model.Plain) (product : String) :
    (table.versions product).outcome answers = table.shelf.versions store product := by
  have version (item : Json) :
      (table.read item).map table.model.version = table.shelf.version item := by
    unfold Table.read Shelf.version
    change _ = (decode table.name table.model.shape item).map _
    cases decode table.name table.model.shape item with
    | error failure => rfl
    | ok value => exact congrArg Except.ok (plain value)
  rw [outcome_versions_read backs]
  simp only [version]
  rfl

end Store

namespace Gateway

open Store (FileRelease ManagedRelease Shelf Table)

variable {gateway : Gateway} {request : Request}

/-- The releases of the product are kept in the store. -/
def FromStore (gateway : Gateway) (product : String) : Prop :=
  product ∈ Supply.recorded ∨
    product ≠ platformProduct ∧ gateway.settings.products.isEnterprise product = true

def metadataTable (gateway : Gateway) : Table FileRelease :=
  ⟨gateway.settings.store.metadataTable, FileRelease.model⟩

def managedTable (gateway : Gateway) (channel : Channel) : Table ManagedRelease :=
  ⟨Supply.bucketTable gateway.settings.store channel, ManagedRelease.model⟩

/-- The shelf of a product that is kept in the store. -/
def shelf (gateway : Gateway) (request : Request) : Shelf :=
  if Supply.recorded.contains request.product then gateway.metadataTable.shelf
  else (gateway.managedTable request.channel).shelf

theorem supply_recorded (recorded : request.product ∈ Supply.recorded) :
    gateway.supply request =
      Supply.Records.supply gateway.metadataTable gateway.settings.products.downloadRoot := by
  unfold supply Supply.choose
  rw [if_pos (by simpa using recorded)]
  rfl

/-- The releases of the product are kept in the store, and its files in the bucket. -/
structure FromBucket (gateway : Gateway) (product : String) : Prop where
  unrecorded : product ∉ Supply.recorded
  bundle : product ≠ platformProduct
  enterprise : gateway.settings.products.isEnterprise product = true

theorem supply_bucket (kept : gateway.FromBucket request.product) :
    gateway.supply request =
      Supply.Bucket.supply (gateway.managedTable request.channel) gateway.settings.objects := by
  unfold supply Supply.choose
  rw [if_neg (by simpa using kept.unrecorded), if_neg kept.bundle, if_pos kept.enterprise]
  rfl

/-- What is kept in the store comes file by file or from a bucket. -/
theorem supply_stored (stored : gateway.FromStore request.product) :
    gateway.supply request =
        Supply.Records.supply gateway.metadataTable gateway.settings.products.downloadRoot ∧
      gateway.shelf request = gateway.metadataTable.shelf ∨
    gateway.supply request =
        Supply.Bucket.supply (gateway.managedTable request.channel) gateway.settings.objects ∧
      gateway.shelf request = (gateway.managedTable request.channel).shelf := by
  unfold shelf
  by_cases recorded : request.product ∈ Supply.recorded
  · rw [if_pos (by simpa using recorded)]
    exact .inl ⟨supply_recorded recorded, rfl⟩
  · obtain ⟨bundle, enterprise⟩ := stored.resolve_left recorded
    rw [if_neg (by simpa using recorded)]
    exact .inr ⟨supply_bucket ⟨recorded, bundle, enterprise⟩, rfl⟩

end Gateway

end ReleaseGate
