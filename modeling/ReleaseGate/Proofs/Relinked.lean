import ReleaseGate.Proofs.Link
import ReleaseGate.Proofs.Lookup

/-! What relinking a catalog changes: the links, and nothing else. -/

namespace ReleaseGate

namespace Package

variable {α β γ : Type}

namespace Tree

theorem map_map (f : String → String → String → α → β) (g : String → String → String → β → γ)
    (tree : Tree α) :
    (tree.map f).map g = tree.map fun a b c value => g a b c (f a b c value) := by
  unfold map
  simp only [Dict.map_map]

/-- The keys on every level, those with nothing below them included. -/
def outline (tree : Tree α) : List (String × List (String × List String)) :=
  tree.entries.map fun (a, middle) =>
    (a, middle.entries.map fun (b, inner) => (b, inner.entries.map (·.1)))

theorem outline_map (f : String → String → String → α → β) (tree : Tree α) :
    (tree.map f).outline = tree.outline := by
  unfold outline map Dict.map
  simp only [List.map_map, Function.comp_def]

end Tree

/-- The request for this version of the package under three keys. A part that is no key of the
layout stays as it was asked for. -/
def Layout.asked (request : Request) (version a b c : String) : Layout → Request
  | byPlatformVersion =>
    { request with version, platform := a, platformVersion := b, architecture := c }
  | byPackageManager =>
    { request with version, platform := a, architecture := b, packageManager := c }

theorem Layout.asked_injective {layout : Layout} {request : Request}
    {version other a b c x y z : String}
    (h : layout.asked request version a b c = layout.asked request other x y z) :
    a = x ∧ b = y ∧ c = z := by
  cases layout with
  | byPlatformVersion =>
    injection h with _ _ _ first second third
    exact ⟨first, second, third⟩
  | byPackageManager =>
    injection h with _ _ _ first _ second third
    exact ⟨first, second, third⟩

namespace Catalog

theorem requestFor_eq_asked (request : Request) (layout : Layout) (record : Record)
    (a b c : String) :
    requestFor request (layout.target a b c) record =
      layout.asked request (if record.version = "" then request.version else record.version)
        a b c := by
  cases layout <;> rfl

theorem update_update (catalog : Catalog) (f g : Target → Record → Record) :
    (catalog.update f).update g =
      catalog.update fun target record => g target (f target record) := by
  simp only [update_eq, Tree.map_map]

theorem outline_update (catalog : Catalog) (f : Target → Record → Record) :
    (catalog.update f).tree.outline = catalog.tree.outline := by
  rw [update_eq, Tree.outline_map]

/-- The catalog with all its links left out. -/
def unlinked (catalog : Catalog) : Catalog :=
  catalog.update fun _ record => { record with url := "" }

variable (catalog : Catalog) (request : Request) (base : String)

theorem relinked_unlinked :
    catalog.unlinked.relinked request base = catalog.relinked request base :=
  update_update catalog _ _

theorem unlinked_relinked : (catalog.relinked request base).unlinked = catalog.unlinked :=
  update_update catalog _ _

/-- What is relinked does not matter beyond what stands beside the links. -/
theorem relinked_congr {catalog other : Catalog} (h : other.unlinked = catalog.unlinked) :
    other.relinked request base = catalog.relinked request base := by
  rw [← relinked_unlinked other, h, relinked_unlinked]

theorem get?_relinked (a b c : String) :
    (catalog.relinked request base).tree.get? a b c =
      (catalog.tree.get? a b c).map fun record =>
        { record with url := (catalog.layout.asked request
            (if record.version = "" then request.version else record.version) a b c).link base } := by
  unfold relinked
  simp only [update_eq, Tree.get?_map, requestFor_eq_asked]

/-- Two packages have the same link only if they are the same package. -/
theorem keys_eq_of_url_eq {a b c x y z : String} {record other : Record}
    (found : (catalog.relinked request base).tree.get? a b c = some record)
    (also : (catalog.relinked request base).tree.get? x y z = some other)
    (same : record.url = other.url) : a = x ∧ b = y ∧ c = z := by
  rw [get?_relinked, Option.map_eq_some_iff] at found also
  obtain ⟨_, -, rfl⟩ := found
  obtain ⟨_, -, rfl⟩ := also
  exact Layout.asked_injective (Request.link_injective base same)

/-- Relinking keeps the layout, all keys and all that is said of a package but its link. The link
is that of the request for the package under its own keys, in its own version if it has one. No two
packages have the same link, the links that were there before leave no trace, and relinking again
changes nothing. -/
theorem relinked_catalog :
    (catalog.relinked request base).layout = catalog.layout ∧
    (catalog.relinked request base).tree.outline = catalog.tree.outline ∧
    (∀ a b c, (catalog.relinked request base).tree.get? a b c =
      (catalog.tree.get? a b c).map fun record =>
        { record with url := (catalog.layout.asked request
            (if record.version = "" then request.version else record.version) a b c).link base }) ∧
    (∀ a b c x y z record other,
      (catalog.relinked request base).tree.get? a b c = some record →
      (catalog.relinked request base).tree.get? x y z = some other →
      record.url = other.url → a = x ∧ b = y ∧ c = z) ∧
    (∀ other : Catalog, other.unlinked = catalog.unlinked →
      other.relinked request base = catalog.relinked request base) ∧
    (catalog.relinked request base).relinked request base = catalog.relinked request base := by
  refine ⟨rfl, outline_update catalog _, get?_relinked catalog request base, ?_, ?_, ?_⟩
  · intro a b c x y z record other found also same
    exact keys_eq_of_url_eq catalog request base found also same
  · intro other same
    exact relinked_congr request base same
  · exact relinked_congr request base (unlinked_relinked catalog request base)

end Catalog

end Package

end ReleaseGate
