import ReleaseGate.Supply.Bucket
import ReleaseGate.Supply.Platform
import ReleaseGate.Supply.Records
import ReleaseGate.Supply.Remote

namespace ReleaseGate.Supply

/-- The products of which the store has records. -/
def recorded : List String := [Records.automate, Records.habitat]

/-- The table of a channel. -/
def bucketTable (settings : StoreSettings) : Channel → String
  | .current => settings.currentTable
  | .stable => settings.stableTable

/-- Where a product of a channel comes from. -/
def choose (settings : Settings) (portalRoot product : String) (channel : Channel) : Supply :=
  if recorded.contains product then
    Records.supply ⟨settings.store.metadataTable, Store.FileRelease.model⟩
      settings.products.downloadRoot
  else if product = platformProduct then Platform.supply settings.gate.persona portalRoot
  else if settings.products.isEnterprise product then
    Bucket.supply ⟨bucketTable settings.store channel, Store.ManagedRelease.model⟩ settings.objects
  else Remote.supply

end ReleaseGate.Supply
