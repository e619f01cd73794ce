import BrokerLoad.Crew
import BrokerLoad.Script.Client

/-!
# Rehearsals

A rehearsal runs one engine, as the only worker of a crew, against a scripted
broker, from its start until it can take no further step.  Its ledger may have been
used before, so that rehearsals can be held one after another.
-/

namespace BrokerLoad

namespace Script

/-- How many steps a script has, for submissions and reads together. -/
def size (script : Script) : Nat :=
  (script.stepsById.map fun entry => entry.2.length).foldl (· + ·) 0 + script.steps.length +
    script.reads.length

end Script

/-- A rehearsal that is over. -/
structure Rehearsal where
  worker : Worker
  /-- What it shared with the broker, as it was left. -/
  shared : Shared Scripted

namespace Rehearsal

/-- More steps than an engine takes between two submissions or two reads, with what it
does before the first and after the last. -/
def stepsPerTurn : Nat := 32

/-- How many steps to allow an engine.  A submission that is not accepted uses up a step
of the script, and so does a read, so that the number of turns is bounded by the
messages to be sent and the steps of the script. -/
def stepBound (engine : Engine) (script : Script) : Nat :=
  let messages :=
    match engine with
    | .pipelinedProducer options _ => options.messages.toNat
    | .blockingProducer options _ => options.messages.toNat
    | .pipelinedConsumer _ _ => 0
    | .blockingConsumer _ _ => 0
  stepsPerTurn * (messages + script.size + 2)

/-- Holds a rehearsal. -/
def hold (name : String) (engine : Engine) (script : Script) (ledger : Ledger) : Rehearsal :=
  let worker := Worker.hire name engine
  let crew : Crew Scripted := ⟨{ ledger, client := { script } }, [worker]⟩
  let crew := (crew.start 0).runWorker 0 (stepBound engine script)
  { worker := crew.workers.headD worker, shared := crew.shared }

/-! ## Single deliveries -/

/-- A delivery that has been taken in on its own. -/
structure Taken where
  /-- How that ended. -/
  result : Except Fault Bool
  counts : Consumer.Counts
  ledger : Ledger
  /-- What was written meanwhile. -/
  log : List LogLine

/-- Answers the queries of a machine, for as many steps as it may take. -/
def answerAll {β α σ : Type} [Client β] (body : σ → Request α (Paced σ)) :
    Nat → Paced σ → Shared β → Paced σ × Shared β
  | 0, state, shared => (state, shared)
  | bound + 1, state, shared =>
    match state.request body with
    | .finish _ => (state, shared)
    | .ask query next =>
      let served := shared.answer false query
      answerAll body bound (next served.reply) served.client

/-- Takes in a delivery of these bytes, with an acknowledgement that turns out as said. -/
def takeIn (name : String) (data : Bytes) (ack : Script.Acking) (counts : Consumer.Counts)
    (ledger : Ledger) : Taken :=
  let client : Scripted := { script := {}, deliveries := #[{ act := .brings data, ack }] }
  let intake : Consumer.Intake := { delivery := Scripted.delivery data 0, counts }
  let (state, shared) :=
    answerAll (Consumer.Intake.request name) stepsPerTurn (.enter intake)
      ({ ledger, client } : Shared Scripted)
  { result :=
      match state.now.stage with
      | .over result => result
      | _ => .ok false
    counts := state.now.counts
    ledger := shared.ledger
    log := shared.log }

end Rehearsal
end BrokerLoad
