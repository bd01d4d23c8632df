import ReleaseGate.Json.Shape
import ReleaseGate.Text.Pieces

namespace ReleaseGate.Portal

open Json (Shape)

/-- A release channel that a customer may download from. -/
structure CustomerChannel where
  id : String := ""
  appSlug : String := ""
  channelSlug : String := ""
  deriving DecidableEq, Repr

structure Customer where
  id : String := ""
  email : String := ""
  airgap : Bool := false
  installationId : String := ""
  channels : List CustomerChannel := []
  deriving DecidableEq, Repr

def CustomerChannel.shape : Shape :=
  .record "CustomerChannel"
    (["id", "appSlug", "channelSlug"].map fun name => (name, false, .text))

def CustomerChannel.ofJson (value : Json) : CustomerChannel where
  id := value.textAt "id"
  appSlug := value.textAt "appSlug"
  channelSlug := value.textAt "channelSlug"

namespace Customer

def shape : Shape :=
  .record "Customer"
    [("id", false, .text), ("email", false, .text), ("airgap", false, .flag),
      ("installationId", false, .text), ("channels", false, .list CustomerChannel.shape)]

def ofJson (value : Json) : Customer where
  id := value.textAt "id"
  email := value.textAt "email"
  airgap := value.boolAt "airgap"
  installationId := value.textAt "installationId"
  channels := (value.listAt "channels").map CustomerChannel.ofJson

/-- Where the customer's first channel is, below `root`. A channel needs both its slugs. -/
def downloadUrl? (customer : Customer) (root : String) : Option String :=
  match customer.channels with
  | [] => none
  | channel :: _ =>
    if channel.appSlug = "" ∨ channel.channelSlug = "" then none
    else
      some (Text.withoutEndSlashes root ++ "/" ++ channel.appSlug ++ "/" ++ channel.channelSlug ++
        if customer.airgap then "/airgap" else "")

end Customer

end ReleaseGate.Portal
