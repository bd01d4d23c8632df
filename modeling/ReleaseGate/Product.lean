import ReleaseGate.Request
import ReleaseGate.Version.Reader

namespace ReleaseGate

/-- Where a range of versions lies. -/
inductive Side where
  | atLeast
  | atMost
  | below
  deriving DecidableEq, Repr

/-- The versions on one side of a bound, which has three numbers at most. -/
structure Range where
  side : Side
  bound : List Nat
  deriving DecidableEq, Repr

/-- The core with its first `n` numbers, and zeros for the others. -/
def Core.upTo (core : Core) : Nat → Core
  | 0 => ⟨0, 0, 0⟩
  | 1 => ⟨core.major, 0, 0⟩
  | 2 => ⟨core.major, core.minor, 0⟩
  | _ => core

namespace Range

def limit (range : Range) : Core :=
  ⟨range.bound.getD 0 0, range.bound.getD 1 0, range.bound.getD 2 0⟩

/-- As many numbers are compared as the bound has. -/
def contains (range : Range) (core : Core) : Bool :=
  let numbers := core.upTo range.bound.length
  match range.side with
  | .atLeast => (range.limit.order numbers).isLE
  | .atMost => (numbers.order range.limit).isLE
  | .below => (numbers.order range.limit).isLT

/-- Every version of a release is at most that release. -/
example : contains ⟨.atMost, [14]⟩ ⟨14, 15, 6⟩ = true := by decide

def text (range : Range) : String :=
  let sign := match range.side with
    | .atLeast => ">="
    | .atMost => "<="
    | .below => "<"
  sign ++ " " ++ ".".intercalate (range.bound.map toString)

end Range

namespace Product

/-- What is known of a registered product. -/
structure Rules where
  title : String
  supported : Range
  openSource : Option Range := none
  offTrial : Bool := false
  deriving DecidableEq, Repr

def atLeast (bound : List Nat) : Range := ⟨.atLeast, bound⟩

def atMost (bound : List Nat) : Range := ⟨.atMost, bound⟩

def below (bound : List Nat) : Range := ⟨.below, bound⟩

def registry : List (String × Rules) :=
  [("automate", ⟨"Chef Automate", atLeast [0], atLeast [0], false⟩),
   ("chef", ⟨"Chef Infra Client", atLeast [16, 0, 0], atMost [14, 15, 6], false⟩),
   ("chef-backend", ⟨"Chef Backend", atLeast [3, 0, 0], none, true⟩),
   ("chef-server", ⟨"Chef Infra Server", atLeast [14, 0, 0], atMost [12, 19, 31], false⟩),
   ("chef-workstation", ⟨"Chef Workstation", atLeast [21, 0, 0], atMost [0, 4, 2], false⟩),
   ("habitat", ⟨"Chef Habitat", atLeast [0], below [0, 79, 0], false⟩),
   ("inspec", ⟨"InSpec", atLeast [4, 0, 0], atMost [4, 3, 2], false⟩),
   ("manage", ⟨"Chef Manage", atLeast [2, 5, 0], none, true⟩),
   ("supermarket", ⟨"Chef Supermarket", atLeast [5, 0, 0], atMost [5, 1, 63], true⟩),
   ("desktop", ⟨"", atLeast [0], atMost [14, 15, 6], false⟩),
   ("chef-ice", ⟨"Chef Infra Client Enterprise", atLeast [0], none, false⟩),
   ("migrate-ice", ⟨"Migration Tool", atLeast [0], none, false⟩)]

def rules? (product : String) : Option Rules := registry.lookup product

def registered (product : String) : Bool := (rules? product).isSome

def hasOpenSource (product : String) : Bool :=
  match rules? product with
  | some rules => rules.openSource.isSome
  | none => false

def offTrial (product : String) : Bool :=
  match rules? product with
  | some rules => rules.offTrial
  | none => false

/-- A version is judged by its numbers alone. One that cannot be read has not ended, and neither
has any of a product that is not registered. -/
def endOfLife (product version : String) : Bool :=
  if wantsLatest version then false
  else
    match rules? product, Version.lenient? version with
    | some rules, some v => !rules.supported.contains v.core
    | _, _ => false

/-- Only a version that can be read is open source. -/
def openSource (product version : String) : Bool :=
  match (rules? product).bind Rules.openSource, Version.lenient? version with
  | some range, some v => range.contains v.core
  | _, _ => false

def supportedText (product : String) : String :=
  match rules? product with
  | some rules => rules.supported.text
  | none => ""

/-- The product with its title, if it is registered. -/
def label (product : String) : String :=
  match rules? product with
  | some rules => product ++ ":" ++ rules.title
  | none => product

end Product

end ReleaseGate
