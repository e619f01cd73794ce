import BrokerLoad.Ledger.IdMint
import BrokerLoad.Ledger.SeenIds
import BrokerLoad.Ledger.Metrics

/-!
# The ledger of a run

Everything that the producers and consumers of one run share: the mint that
producers take ids from, the set that consumers note ids in, and the metrics that
all of them write.
-/

namespace BrokerLoad

/-- What the engines of a run share. -/
structure Ledger where
  ids : IdMint := {}
  seen : SeenIds := {}
  /-- The counters and latencies. -/
  metrics : Metrics := {}

end BrokerLoad
