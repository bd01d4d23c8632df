import ReleaseGate.Product

namespace ReleaseGate

/-- Who a deployment serves. -/
inductive Persona where
  | commercial
  | trial
  | opensource
  deriving DecidableEq, Repr

/-- The product that stands for the platform bundle. -/
def platformProduct : String := "chef-360"

namespace Persona

def name : Persona → String
  | commercial => "commercial"
  | trial => "trial"
  | opensource => "opensource"

def ofName? (name : String) : Option Persona :=
  if name = "commercial" then some commercial
  else if name = "trial" then some trial
  else if name = "opensource" then some opensource
  else none

def ofName (name : String) : Except Failure Persona :=
  match ofName? name with
  | some persona => .ok persona
  | none => .error (.config ("unknown persona '" ++ name ++ "'"))

/-- Without `eol` only registered products are left. -/
def supportedProducts (products : List String) (eol : Bool) : List String :=
  if eol then products else products.filter Product.registered

/-- The products a persona is shown. Trial listings carry the products' titles. -/
def visibleProducts (persona : Persona) (products : List String) (eol : Bool) : List String :=
  match persona with
  | commercial => supportedProducts products eol ++ [platformProduct]
  | trial => ((supportedProducts products eol).filter (!Product.offTrial ·)).map Product.label
  | opensource => products.filter Product.hasOpenSource

/-- The versions a persona may have, in the order given. A trial gets the last one, whatever it
is; the open-source limit of habitat is kept by its own channels. -/
def visibleVersions (persona : Persona) (versions : List String) (product : String) (eol : Bool) :
    List String :=
  match persona with
  | commercial => if eol then versions else versions.filter (!Product.endOfLife product ·)
  | trial => versions.getLast?.toList
  | opensource =>
    if product = "habitat" then versions else versions.filter (Product.openSource product ·)

end Persona

end ReleaseGate
