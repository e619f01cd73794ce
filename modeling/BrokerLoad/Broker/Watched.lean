import BrokerLoad.Broker.Hub
import BrokerLoad.Crew

/-!
# Engines on a hub, one at a time

A single engine that has a hub to itself may wait for ever: a consumer does, once it
has read everything.  A *watched* hub sees to it that it comes to an end.  It serves
all calls as the hub does, but it counts the reads and writes; it requests a stop
before the one of a given number, and after every read that finds nothing.  The
payload of each message is replaced by zeros, so that what is written does not
depend on who wrote it.
-/

namespace BrokerLoad

/-- A hub that is watched. -/
structure Watched where
  hub : Hub
  /-- The number of the read or write that a stop is requested before; 0 for none. -/
  stopAt : Nat := 0
  /-- How many reads and writes there have been. -/
  calls : Nat := 0

namespace Watched

/-- A message with its payload replaced by zeros. -/
def blank (data : Bytes) : Bytes :=
  data.take Envelope.idSize ++ List.replicate (data.length - Envelope.idSize) 0

/-- Counts a read or write, and tells whether a stop is requested before it. -/
def count (watched : Watched) : List Interruption × Watched :=
  let calls := watched.calls + 1
  (if calls = watched.stopAt then [.inside] else [], { watched with calls })

/-- Serves a call by the hub. -/
def forward (watched : Watched) (call : Call) : Served Watched call.Reply :=
  let served := watched.hub.serve call
  { reply := served.reply, client := { watched with hub := served.client }, stops := served.stops }

/-- Serves a call. -/
def serve (watched : Watched) : (call : Call) → Served Watched call.Reply
  | .submit handle data =>
    let (stops, watched) := watched.count
    { watched.forward (.submit handle (blank data)) with stops }
  | .write handle data =>
    let (stops, watched) := watched.count
    { watched.forward (.write handle (blank data)) with stops }
  | .request handle =>
    let (stops, watched) := watched.count
    let (ticket, hub) := watched.hub.request handle
    { reply := .ok (some ticket)
      client := { watched with hub }
      stops := if hub.awaited[ticket]? = some .pending then stops ++ [.inside] else stops }
  | .read handle =>
    let (stops, watched) := watched.count
    let (delivery, hub) := watched.hub.read handle
    { reply := .ok delivery
      client := { watched with hub }
      stops := if delivery = none then stops ++ [.inside] else stops }
  | call => watched.forward call

instance : Client Watched where
  serve call watched := watched.serve call

/-- How many messages are ready in all queues together. -/
def readyCount (hub : Hub) : Nat :=
  (hub.queues.toList.map fun queue => queue.ready.size).foldl (· + ·) 0

/-- More steps than an engine takes between two reads or two writes. -/
def stepsPerTurn : Nat := 32

/-- How many steps to allow an engine.  A producer sends each of its messages as often
as it may.  A consumer reads what is ready, and what its own acknowledgements add to
that --- at most as much again, unless every one of them adds a message, and then
only a stop request ends it. -/
def stepBound (engine : Engine) (watched : Watched) : Nat :=
  let turns :=
    match engine with
    | .pipelinedProducer options _ => options.messages.toNat * (options.maxAttempts.toNat + 1)
    | .blockingProducer options _ => options.messages.toNat * (options.maxAttempts.toNat + 1)
    | .pipelinedConsumer _ _ => 2 * readyCount watched.hub + watched.stopAt
    | .blockingConsumer _ _ => 2 * readyCount watched.hub + watched.stopAt
  stepsPerTurn * (turns + 4)

/-- An engine that has run to its end. -/
structure Run where
  worker : Worker
  shared : Shared Watched

/-- Runs an engine to its end. -/
def run (name : String) (engine : Engine) (watched : Watched) (ledger : Ledger) : Run :=
  let worker := Worker.hire name engine
  let crew : Crew Watched := ⟨{ ledger, client := watched }, [worker]⟩
  let crew := (crew.start 0).runWorker 0 (stepBound engine watched)
  { worker := crew.workers.headD worker, shared := crew.shared }

end Watched
end BrokerLoad
