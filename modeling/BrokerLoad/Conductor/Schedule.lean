import BrokerLoad.Conductor

/-!
# A schedule for a run

To carry out a run on one thread its steps have to be put into some order.  The
conductor goes on until it rests or waits.  When it rests, every worker has its turn.
When it waits for a worker, that worker takes steps, and if it still has not come to
its end the wait is over.

A turn is a number of steps, and it is over early when the worker has waited for a
delivery in vain; so workers that could go on for ever hold nobody up.  The turn of a
consumer is long enough to read what all the publishers write in theirs, so that no
backlog builds up while there is someone to read it.

## Time

Time is what the conductor rests.  A rest during which the crew has counted anything
was spent on work and takes ten microseconds; one during which it has counted nothing
was spent on waiting and takes a millisecond.  Working is thus cheap: a run whose crew
gets on with it is not given up for the number of its messages, while a run that has
come to a standstill is over when its time is.
-/

namespace BrokerLoad
namespace Conductor

variable {β : Type}

/-- How many steps the turn of a publisher has. -/
def stride : Nat := 1024

/-- How many steps the turn of the worker of a number has, if it is not over early: that of
a consumer has two for each step of all the publishers. -/
def strideOf (run : Conductor β) (number : Nat) : Nat :=
  if number < run.consumerCount then 2 * stride * max 1 run.plan.publishers.toNat else stride

/-- More steps than a worker needs to come to its end once it has been asked to stop. -/
def patience : Nat := 256

/-- The number of the worker that the conductor is busy with. -/
def attended (run : Conductor β) : Option Nat :=
  match run.point with
  | .starting number _ => some number
  | .stoppingPublisher number _ => some number
  | .stoppingConsumer number _ => some number
  | .dismissingPublisher number _ => some number
  | .dismissingConsumer number _ => some number
  | _ => none

/-- How often the worker of a number has waited in vain. -/
def waits (crew : Crew β) (number : Nat) : UInt64 :=
  ((crew.workers[number]?).map fun worker => worker.engine.waits).getD 0

/-- The worker of a number takes steps until it can take none, has waited in vain, or has
taken as many as it may. -/
def turn [Client β] (number : Nat) : Nat → Crew β → Crew β
  | 0, crew => crew
  | bound + 1, crew =>
    match crew.step number with
    | none => crew
    | some next => if waits next number = waits crew number then turn number bound next else next

/-- The workers from a number on, `count` of them, have their turns. -/
def turnsFrom [Client β] (number : Nat) : Nat → Conductor β → Conductor β
  | 0, run => run
  | count + 1, run =>
    turnsFrom (number + 1) count
      { run with crew := turn number (run.strideOf number) run.crew }

/-- Every worker has its turn. -/
def round [Client β] (run : Conductor β) : Conductor β := turnsFrom 0 run.workerCount run

/-- How many microseconds a rest takes that has changed the metrics from what they were
before to what they are after it. -/
def restMicros (before after : Metrics) : Nat :=
  if before = after then 1000 else 10

/-- The microseconds that a plan has, if it is limited. -/
def limitMicros (plan : Plan) : Nat := plan.timeoutSeconds.toNat * 1000000

/-- The moment of a clock that counts microseconds. -/
def momentAt (run : Conductor β) (interrupted : Bool) (clock : Nat) : Moment where
  interrupted := interrupted
  late := limitMicros run.plan ≤ clock
  elapsedMillis := clock / 1000

/-- Carries a run on until it is over, or as far as it may. -/
def carry [Client β] (interrupted : Bool) : Nat → Nat → Conductor β → Conductor β
  | 0, _, run => run
  | bound + 1, clock, run =>
    let moment := run.momentAt interrupted clock
    match run.point with
    | .finished _ => run
    | .resting =>
      let before := run.crew.shared.ledger.metrics
      let run := run.round
      let micros := restMicros before run.crew.shared.ledger.metrics
      carry interrupted bound (clock + micros) (run.goto .lookSeen)
    | _ =>
      match run.step moment with
      | some run => carry interrupted bound clock run
      | none =>
        let crew :=
          match run.attended with
          | some number => run.crew.runWorker number patience
          | none => run.crew
        let run := { run with crew }
        match run.step moment with
        | some run => carry interrupted bound clock run
        | none =>
          match run.step { moment with timeUp := true } with
          | some run => carry interrupted bound clock run
          | none => run

/-- How many rounds to allow a run: the microseconds that it has, or if it has no limit,
enough for every message to be sent as often as it may be and be read twice. -/
def roundBound (plan : Plan) : Nat :=
  if plan.timeoutSeconds = 0 then 64 * (plan.expected.toNat + 1)
  else limitMicros plan + 1

/-- How many steps of the conductor to allow a run: those of each round, and those that
it takes with each worker to start it, stop it and let it go. -/
def stepBound (plan : Plan) : Nat :=
  4 * roundBound plan +
    3 * (Lifecycle.Control.stepBound + 1) * (plan.consumers.toNat + plan.publishers.toNat) + 16

/-- The exit code of a run that is over. -/
def exitCode (run : Conductor β) : Nat :=
  match run.point with
  | .finished code => code
  | _ => 1

/-- Conducts a run from beginning to end. -/
def conduct [Client β] (plan : Plan) (client : β) (interrupted : Bool) : Conductor β :=
  carry interrupted (stepBound plan) 0 (begin plan client)

end Conductor
end BrokerLoad
