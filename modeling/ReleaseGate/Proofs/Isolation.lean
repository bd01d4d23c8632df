import ReleaseGate.Proofs.Latest
import ReleaseGate.Proofs.Questions

/-! A product that is kept in the store is told apart from all else that is stored. -/

namespace ReleaseGate

/-- These services, with the questions to the store answered by this one. -/
def Services.stocked (services : Services) (store : Store) : Services where
  State := services.State
  answer
    | .item table product version, state => (.ok (store.item? table product version), state)
    | .scan table filter, state => (.ok (store.scan table filter), state)
    | query, state => services.answer query state

/-- A question that, if it is one to the store, is about a product and to its table. -/
def Query.About (table product : String) : Query → Prop
  | .item table' product' _ => table' = table ∧ product' = product
  | .scan table' filter => table' = table ∧ filter = some ("product", product)
  | _ => True

namespace Store

variable {store other : Store} {table product : String}

/-- Stores that have the same items about a product answer what is asked about it in the same
way. -/
theorem answer_stocked (services : Services)
    (same : store.stock table product = other.stock table product) {query : Query}
    (about : query.About table product) :
    (services.stocked store).answer query = (services.stocked other).answer query := by
  cases query with
  | item table' product' version =>
    obtain ⟨rfl, rfl⟩ := about
    funext state
    simp only [Services.stocked, item?_eq_stock, same]
  | scan table' filter =>
    obtain ⟨rfl, rfl⟩ := about
    funext state
    exact congrArg (fun items => (Except.ok items, state)) same
  | _ => rfl

theorem play_stocked {α : Type} (services : Services)
    (same : store.stock table product = other.stock table product) {action : Action α}
    (asks : action.Asks (Query.About table product))
    (before : services.State × List Event) :
    (services.stocked store).play action before = (services.stocked other).play action before := by
  refine congrFun (asks.run_congr (m := StateM (services.State × List Event)) ?_ _) before
  intro query about
  rw [answer_stocked services same about]
  rfl

end Store

namespace Gateway

variable {gateway : Gateway} {request : Request} {store other : Store}

theorem open_about (table product : String) :
    Store.Open (Query.About table product) table product :=
  ⟨fun _ => ⟨rfl, rfl⟩, ⟨rfl, rfl⟩⟩

theorem fetched_about (table product : String) :
    Supply.Bucket.Fetched (Query.About table product) :=
  ⟨fun _ => trivial, fun _ _ => trivial, fun _ _ _ _ => trivial⟩

/-- Of a product that is kept in the store no other table is asked, and that one about nothing but
the product. -/
theorem asks_perform_stored (stored : gateway.FromStore request.product) (base : String)
    (operation : Operation) : (gateway.perform base request operation).Asks
      (Query.About (gateway.shelf request).table request.product) := by
  obtain ⟨supply, shelf⟩ | ⟨supply, shelf⟩ := supply_stored stored
  · refine asks_perform base ?_ trivial ?_
    · rw [supply, shelf]
      exact Supply.Records.asks_supply (open_about _ _) _
    · intro _ _ resolved product
      rw [supply, shelf]
      apply Supply.Records.asks_download
      rw [product]
      exact open_about _ _
  · refine asks_perform base ?_ trivial ?_
    · rw [supply, shelf]
      exact Supply.Bucket.asks_supply (open_about _ _) _
    · intro _ _ resolved product
      rw [supply, shelf]
      apply Supply.Bucket.asks_download _ (fetched_about _ _)
      rw [product]
      exact open_about _ _

/-- What is done with a request for a product that is kept in the store depends on what its table
has about the product, and on nothing else that is stored. -/
theorem perform_stocked_congr (services : Services) (stored : gateway.FromStore request.product)
    (same : store.stock (gateway.shelf request).table request.product =
      other.stock (gateway.shelf request).table request.product)
    (base : String) (operation : Operation) (start : services.State) :
    (services.stocked store).result (gateway.perform base request operation) start =
        (services.stocked other).result (gateway.perform base request operation) start ∧
      (services.stocked store).log (gateway.perform base request operation) start =
        (services.stocked other).log (gateway.perform base request operation) start := by
  have played := Store.play_stocked services same
    (asks_perform_stored stored base operation) (start, [])
  constructor
  · exact congrArg (·.1) played
  · unfold Services.log
    exact congrArg (fun after : _ × services.State × List Event => Event.entries after.2.2) played

/-- Nothing answers but the store. -/
def alone : Services := ⟨Unit, fun _ state => (.error .noCandidates, state)⟩

/-- A record in which only the product is said. -/
def stub (product : String) : Json := .record [("product", .text product)]

/-- Beside the releases stand a record of another product, which cannot be read, and in another
table one of the same product. -/
def cluttered : Store :=
  (twoReleases.insert "metadata-details" (stub "automate")).insert "package-details-stable"
    (stub "habitat")

theorem listing_cluttered :
    (alone.stocked cluttered).result ((plain .commercial).allVersions latestHabitat) () =
        (alone.stocked twoReleases).result ((plain .commercial).allVersions latestHabitat) () ∧
      (alone.stocked cluttered).log ((plain .commercial).allVersions latestHabitat) () =
        (alone.stocked twoReleases).log ((plain .commercial).allVersions latestHabitat) () := by
  have same : cluttered.stock "metadata-details" "habitat" =
      twoReleases.stock "metadata-details" "habitat" := by
    unfold cluttered
    rw [Store.stock_insert _ fun same => absurd same (by decide),
      Store.stock_insert _ fun _ => by decide]
  exact perform_stocked_congr alone (.inl (by decide)) same "" .allVersions ()

end Gateway

end ReleaseGate
