import BrokerLoad.Engine
import BrokerLoad.Worker.Lifecycle

/-!
# Crews

A crew is a number of workers, each with an engine, that share a ledger, a log and a
broker client.  `Crew.step` takes one atomic step of one worker; which worker is
next is nobody's decision here, so that every interleaving is a list of worker
numbers.  A worker that is not in its work loop takes a step of its lifecycle, one
that is asks its engine's next query of what the crew shares.

The time that a latency sample measures is not part of the model: the samples taken
here are of no time at all.
-/

namespace BrokerLoad

/-- What the workers of a crew share. -/
structure Shared (β : Type) where
  ledger : Ledger := {}
  /-- What has been written so far. -/
  log : List LogLine := []
  client : β

namespace Shared

variable {β : Type}

/-- Writes lines. -/
def say (shared : Shared β) (lines : List LogLine) : Shared β :=
  { shared with log := shared.log ++ lines }

/-- Makes an emission. -/
def absorb (shared : Shared β) : Emission → Shared β
  | .say line => shared.say [line]
  | .bump counter amount =>
    { shared with
      ledger := { shared.ledger with metrics := shared.ledger.metrics.add amount counter } }
  | .sample channel =>
    { shared with
      ledger :=
        { shared.ledger with
          metrics := shared.ledger.metrics.updateLatency (·.record 0) channel } }

/-- Answers a query, for a worker that has been asked to stop or not. -/
def answer [Client β] (shared : Shared β) (stopRequested : Bool) :
    (query : Query) → Served (Shared β) query.Reply
  | .pause => { reply := (), client := shared }
  | .emit emission => { reply := (), client := shared.absorb emission }
  | .mint =>
    let (id, ids) := shared.ledger.ids.next
    { reply := id, client := { shared with ledger := { shared.ledger with ids := ids } } }
  | .note id =>
    let (fresh, seen) := shared.ledger.seen.insert id
    { reply := fresh, client := { shared with ledger := { shared.ledger with seen := seen } } }
  | .stopRequested => { reply := stopRequested, client := shared }
  | .broker call =>
    let served := Client.serve call shared.client
    { reply := served.reply
      client := { shared with client := served.client }
      stops := served.stops }

end Shared

/-- A worker and its engine. -/
structure Worker where
  /-- What other threads see of it. -/
  life : Lifecycle
  /-- What it does. -/
  engine : Engine

namespace Worker

/-- A worker that has not been started. -/
def hire (name : String) (engine : Engine) : Worker := { life := { name := name }, engine }

/-- The stop requests that came up while a call was served, as the worker's lifecycle
sees them. -/
def interrupts (life : Lifecycle) : List Interruption → Lifecycle × List LogLine
  | [] => (life, [])
  | stop :: rest =>
    let (life, lines) := life.interrupt (stop = .inside)
    let (life, more) := interrupts life rest
    (life, lines ++ more)

/-- One step of a worker's lifecycle. -/
def advance {β : Type} (worker : Worker) (shared : Shared β) (outcome : Option Outcome) :
    Option (Worker × Shared β) :=
  (worker.life.advance outcome).map fun (life, lines) =>
    ({ worker with life := life }, shared.say lines)

/-- One step of a worker. -/
def step {β : Type} [Client β] (worker : Worker) (shared : Shared β) :
    Option (Worker × Shared β) :=
  if worker.life.phase = .working then
    match worker.engine.request worker.life.name with
    | .finish outcome => worker.advance shared (some outcome)
    | .ask query next =>
      let served := shared.answer worker.life.stopRequested query
      let (life, lines) := interrupts worker.life served.stops
      some ({ life := life, engine := next served.reply }, served.client.say lines)
  else
    worker.advance shared none

end Worker

/-- Workers and what they share. -/
structure Crew (β : Type) where
  shared : Shared β
  workers : List Worker := []

namespace Crew

variable {β : Type}

/-- One step of the worker of a number, if it can take one. -/
def step [Client β] (crew : Crew β) (number : Nat) : Option (Crew β) :=
  match crew.workers[number]? with
  | none => none
  | some worker =>
    (worker.step crew.shared).map fun (worker, shared) =>
      ⟨shared, crew.workers.set number worker⟩

/-- One step of a control that another thread is carrying out on the worker of a
number. -/
def control (crew : Crew β) (number : Nat) (timeUp : Bool) (control : Lifecycle.Control) :
    Option (Lifecycle.Control × Crew β) :=
  match crew.workers[number]? with
  | none => none
  | some worker =>
    (control.step timeUp worker.life).map fun (control, life, lines) =>
      (control, ⟨crew.shared.say lines, crew.workers.set number { worker with life := life }⟩)

/-- Lets the worker of a number take steps until it can take none, or as many as it may. -/
def runWorker [Client β] (number : Nat) : Nat → Crew β → Crew β
  | 0, crew => crew
  | bound + 1, crew =>
    match crew.step number with
    | none => crew
    | some crew => runWorker number bound crew

/-- Starts the worker of a number, with nobody else doing anything meanwhile. -/
def start (crew : Crew β) (number : Nat) : Crew β :=
  match crew.workers[number]? with
  | none => crew
  | some worker =>
    let (_, life, lines) :=
      Lifecycle.Control.drive false Lifecycle.Control.stepBound .start worker.life
    ⟨crew.shared.say lines, crew.workers.set number { worker with life := life }⟩

end Crew
end BrokerLoad
