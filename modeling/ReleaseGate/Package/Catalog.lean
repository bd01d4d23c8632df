import ReleaseGate.Dict
import ReleaseGate.Request

namespace ReleaseGate.Package

/-- The checksums, the place and the version of a file that can be downloaded. -/
structure Record where
  sha1 : String := ""
  sha256 : String := ""
  url : String := ""
  version : String := ""
  deriving DecidableEq, Repr

/-- Values under three keys. -/
abbrev Tree (α : Type) := Dict (Dict (Dict α))

namespace Tree

variable {α β : Type}

def get? (tree : Tree α) (a b c : String) : Option α := do
  (← (← Dict.get? tree a).get? b).get? c

def insert (tree : Tree α) (a b c : String) (value : α) : Tree α :=
  let middle := (Dict.get? tree a).getD .empty
  let inner := (middle.get? b).getD .empty
  Dict.insert tree a (middle.insert b (inner.insert c value))

def map (f : String → String → String → α → β) (tree : Tree α) : Tree β :=
  Dict.map (fun a middle => middle.map fun b inner => inner.map fun c value => f a b c value) tree

/-- The values are changed one after another, in ascending order of the keys. -/
def mapM {m : Type → Type} [Monad m] (f : String → String → String → α → m β) (tree : Tree α) :
    m (Tree β) :=
  Dict.mapM (fun a middle => middle.mapM fun b inner => inner.mapM fun c value => f a b c value)
    tree

theorem mapM_pure {m : Type → Type} [Monad m] [LawfulMonad m]
    (f : String → String → String → α → β) (tree : Tree α) :
    tree.mapM (m := m) (fun a b c value => pure (f a b c value)) = pure (tree.map f) := by
  simp only [mapM, Dict.mapM_pure, map]

/-- The values with their keys, in ascending order of the keys. -/
def leaves (tree : Tree α) : List ((String × String × String) × α) :=
  tree.entries.flatMap fun (a, middle) =>
    middle.entries.flatMap fun (b, inner) =>
      inner.entries.map fun (c, value) => ((a, b, c), value)

def size (tree : Tree α) : Nat :=
  tree.entries.foldl (fun n (_, middle) =>
    middle.entries.foldl (fun n (_, inner) => n + inner.entries.length) n) 0

end Tree

/-- What the three keys of a catalog are: platform, platform version and architecture, or platform,
architecture and package manager. -/
inductive Layout where
  | byPlatformVersion
  | byPackageManager
  deriving DecidableEq, Repr

/-- The target a package is for. -/
structure Target where
  platform : String
  platformVersion : Option String
  architecture : String
  packageManager : Option String
  deriving DecidableEq, Repr

namespace Layout

def target : Layout → String → String → String → Target
  | byPlatformVersion, platform, version, architecture =>
    ⟨platform, some version, architecture, none⟩
  | byPackageManager, platform, architecture, manager =>
    ⟨platform, none, architecture, some manager⟩

end Layout

/-- The packages of one version. -/
structure Catalog where
  layout : Layout := .byPlatformVersion
  tree : Tree Record := .empty
  deriving DecidableEq, Repr

namespace Catalog

def size (catalog : Catalog) : Nat := catalog.tree.size

def isEmpty (catalog : Catalog) : Bool := catalog.size == 0

/-- The packages with their targets, in ascending order of the keys. -/
def packages (catalog : Catalog) : List (Target × Record) :=
  catalog.tree.leaves.map fun ((a, b, c), record) => (catalog.layout.target a b c, record)

def records (catalog : Catalog) : List Record := catalog.packages.map (·.2)

/-- Each package is changed in its turn. What becomes of it may depend on those before it. -/
def updateM {m : Type → Type} [Monad m] (catalog : Catalog) (f : Target → Record → m Record) :
    m Catalog := do
  let tree ← catalog.tree.mapM fun a b c record => f (catalog.layout.target a b c) record
  return { catalog with tree }

def update (catalog : Catalog) (f : Target → Record → Record) : Catalog :=
  Id.run (catalog.updateM fun target record => pure (f target record))

theorem update_eq (catalog : Catalog) (f : Target → Record → Record) :
    catalog.update f = ⟨catalog.layout,
      catalog.tree.map fun a b c record => f (catalog.layout.target a b c) record⟩ := by
  simp only [update, updateM, Tree.mapM_pure, pure_bind, Id.run_pure]

/-- The request for one package of a listing. It names the package's version if the package has
one, and keeps what the target leaves open. -/
def requestFor (request : Request) (target : Target) (record : Record) : Request :=
  { request with
    version := if record.version = "" then request.version else record.version
    platform := target.platform
    platformVersion := target.platformVersion.getD request.platformVersion
    architecture := target.architecture
    packageManager := target.packageManager.getD request.packageManager }

/-- The catalog with links that lead back to the gateway at `base`. -/
def relinked (catalog : Catalog) (request : Request) (base : String) : Catalog :=
  catalog.update fun target record =>
    { record with url := (requestFor request target record).link base }

end Catalog

end ReleaseGate.Package
