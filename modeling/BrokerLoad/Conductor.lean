import BrokerLoad.Crew
import BrokerLoad.Plan
import BrokerLoad.Report

/-!
# Conducting a run

The conductor is the thread that carries out a plan.  It creates the destination and
the consumer group, starts the consumers and then the publishers, and looks again and
again whether all messages have been seen, whether it has been interrupted, and
whether the time is over.  Then it stops everybody, prints the statistics, waits for
every worker to be gone, and takes the group and the destination down again.

Like an engine the conductor is a small-step machine, and `Conductor.step` is one
atomic step of it; between two of its steps any of the workers may take any number
of theirs.  What only the world knows when the step is taken --- the time, and
whether there was an interrupt --- is in a `Moment`.

The workers of a crew are numbered with the consumers first.
-/

namespace BrokerLoad

namespace Plan

/-- Whom to write to about what the conductor creates. -/
def owner : String := "loadgen-demo@localhost"

/-- The destination of a plan. -/
def destinationSpec (plan : Plan) : DestinationSpec where
  path := plan.destination
  unconsumedRetentionSeconds := 7200
  consumedRetentionSeconds := 3600
  owner := owner
  checksum := .crc32

/-- The consumer group of a plan. -/
def groupSpec (plan : Plan) : GroupSpec where
  destination := plan.destination
  name := plan.group
  owner := owner
  maxDeliveries := 3
  skipOlderSeconds := 3600
  lockTimeoutSeconds := 60

/-- The consumer of a number. -/
def consumer (plan : Plan) (number : Nat) : Worker :=
  .hire ("consumer-" ++ toString number)
    (.consumer plan.pipelined { destination := plan.destination, group := plan.group })

/-- The producer of a number. -/
def publisher (plan : Plan) (number : Nat) : Worker :=
  .hire ("publisher-" ++ toString number)
    (.producer plan.pipelined
      { destination := plan.destination
        messages := plan.messages
        messageSize := plan.messageSize.toNat })

/-- The workers of a plan. -/
def workers (plan : Plan) : List Worker :=
  (List.range plan.consumers.toNat).map plan.consumer ++
    (List.range plan.publishers.toNat).map plan.publisher

end Plan

namespace Conductor

/-- What only the world knows. -/
structure Moment where
  interrupted : Bool := false
  /-- Whether the time of the run is over. -/
  late : Bool := false
  /-- The milliseconds since the publishers were about to be started. -/
  elapsedMillis : Int := 0
  /-- Whether the deadline of a wait has passed. -/
  timeUp : Bool := false

/-- What the conductor does next. -/
inductive Point where
  | createDestination
  | createGroup
  | starting (number : Nat) (control : Lifecycle.Control)
  | lookSeen
  | lookInterrupt
  | lookTime
  | resting
  | announce
  | stoppingPublisher (number : Nat) (control : Lifecycle.Control)
  | stoppingConsumer (number : Nat) (control : Lifecycle.Control)
  /-- Print the statistics. -/
  | report
  /-- Let the publisher of a worker number go. -/
  | dismissingPublisher (number : Nat) (control : Lifecycle.Control)
  /-- Let the consumer of a worker number go. -/
  | dismissingConsumer (number : Nat) (control : Lifecycle.Control)
  | deleteGroup
  | deleteDestination
  /-- Close the client. -/
  | shutDown
  /-- Over, with an exit code. -/
  | finished (code : Nat)
  deriving DecidableEq

end Conductor

/-- A run that is being conducted. -/
structure Conductor (β : Type) where
  plan : Plan
  /-- What comes next. -/
  point : Conductor.Point := .createDestination
  /-- Whether all messages were seen when the run was ended. -/
  complete : Bool := false
  /-- The workers and what they share, the conductor included. -/
  crew : Crew β

namespace Conductor

variable {β : Type}

/-- A run that has not begun. -/
def begin (plan : Plan) (client : β) : Conductor β :=
  { plan, crew := { shared := { client }, workers := plan.workers } }

/-- The same run further on. -/
def goto (run : Conductor β) (point : Point) : Conductor β := { run with point }

/-- Writes lines. -/
def say (run : Conductor β) (lines : List LogLine) : Conductor β :=
  { run with crew := { run.crew with shared := run.crew.shared.say lines } }

/-- Makes a broker call. -/
def call [Client β] (run : Conductor β) (call : Call) : call.Reply × Conductor β :=
  let served := Client.serve call run.crew.shared.client
  let shared := { run.crew.shared with client := served.client }
  (served.reply, { run with crew := { run.crew with shared } })

/-- How many consumers there are. -/
def consumerCount (run : Conductor β) : Nat := run.plan.consumers.toNat

/-- How many workers there are. -/
def workerCount (run : Conductor β) : Nat := run.consumerCount + run.plan.publishers.toNat

/-- How many ids have been seen. -/
def seenCount (run : Conductor β) : Nat := run.crew.shared.ledger.seen.size

/-- The name of the worker of a number. -/
def workerName (run : Conductor β) (number : Nat) : String :=
  ((run.crew.workers[number]?).map fun worker => worker.life.name).getD ""

/-- The way from one worker to the next: the point for the worker of a number, if the
number is below the end, and what follows the last worker. -/
def each (number bound : Nat) (point : Nat → Point) (after : Point) : Point :=
  if number < bound then point number else after

/-- Starting the workers from a number on. -/
def startFrom (run : Conductor β) (number : Nat) : Point :=
  each number run.workerCount (.starting · .start) .lookSeen

/-- Letting the consumers go from a number on. -/
def dismissConsumersFrom (run : Conductor β) (number : Nat) : Point :=
  each number run.consumerCount (.dismissingConsumer · .dismiss) .deleteGroup

/-- Letting the publishers go from a worker number on. -/
def dismissPublishersFrom (run : Conductor β) (number : Nat) : Point :=
  each number run.workerCount (.dismissingPublisher · .dismiss) (run.dismissConsumersFrom 0)

/-- Stopping the consumers from a number on. -/
def stopConsumersFrom (run : Conductor β) (number : Nat) : Point :=
  each number run.consumerCount (.stoppingConsumer · .stop) .report

/-- Stopping the publishers from a worker number on. -/
def stopPublishersFrom (run : Conductor β) (number : Nat) : Point :=
  each number run.workerCount (.stoppingPublisher · .stop) (run.stopConsumersFrom 0)

/-- Carries on a control of the worker of a number: further with it, or after it when it
has answered. -/
def carryOn (run : Conductor β) (number : Nat) (timeUp : Bool) (control : Lifecycle.Control)
    (more : Lifecycle.Control → Point) (after : Lifecycle.Answer → Conductor β → Conductor β) :
    Option (Conductor β) :=
  match control with
  | .returned answer => some (after answer run)
  | _ =>
    (run.crew.control number timeUp control).map fun (control, crew) =>
      { run with crew }.goto (more control)

/-- What is said about something that was to be created: whether the run goes on, and
in which words. -/
def creation (outcome : AdminOutcome) (what name : String) : Bool × LogLine :=
  match outcome with
  | .alreadyExists => (true, .progress ("Reusing " ++ what ++ " " ++ name))
  | .success => (true, .progress ("Created " ++ what ++ " " ++ name))
  | outcome => (false, .err ("Error creating " ++ what ++ " " ++ name ++ ": " ++ outcome.text))

/-- What is said about something that was to be deleted. -/
def deletion (outcome : AdminOutcome) (what name : String) : LogLine :=
  match outcome with
  | .success => .progress ("Deleted " ++ what ++ " " ++ name)
  | outcome => .err ("Error deleting " ++ what ++ ": " ++ outcome.text)

/-- What is said when the time is over. -/
def timedOut (run : Conductor β) : LogLine :=
  .err ("Run timed out after " ++ toString run.plan.timeoutSeconds.toNat ++ " s with " ++
    toString run.seenCount ++ " of " ++ toString run.plan.expected.toNat ++ " messages consumed")

/-- The statistics, and how many messages were seen. -/
def statistics (run : Conductor β) (elapsedMillis : Int) : List LogLine :=
  (Report.lines run.crew.shared.ledger.metrics.snapshot elapsedMillis).map (⟨.statistics, ·⟩) ++
    [.progress ("Unique messages consumed: " ++ toString run.seenCount ++ " of " ++
      toString run.plan.expected.toNat)]

/-- One step of the conductor, `none` where it waits for a worker or is over. -/
def step [Client β] (moment : Moment) (run : Conductor β) : Option (Conductor β) :=
  match run.point with
  | .createDestination =>
    let (outcome, run) := run.call (.createDestination run.plan.destinationSpec)
    let (goesOn, line) := creation outcome "destination" run.plan.destination
    some ((run.say [line]).goto (if goesOn then .createGroup else .finished 1))
  | .createGroup =>
    let (outcome, run) := run.call (.createGroup run.plan.groupSpec)
    let (goesOn, line) := creation outcome "consumer group" run.plan.group
    some ((run.say [line]).goto (if goesOn then run.startFrom 0 else .finished 1))
  | .starting number control =>
    run.carryOn number moment.timeUp control (.starting number) fun answer run =>
      let run :=
        if answer = .bool false then
          run.say [.err ("Failed to start " ++ run.workerName number)]
        else
          run
      run.goto (run.startFrom (number + 1))
  | .lookSeen =>
    if run.plan.expected.toNat ≤ run.seenCount then
      some ({ run with complete := true }.goto .announce)
    else
      some (run.goto .lookInterrupt)
  | .lookInterrupt =>
    if moment.interrupted then some ((run.say [.progress "Interrupted"]).goto .announce)
    else some (run.goto .lookTime)
  | .lookTime =>
    if run.plan.timeoutSeconds ≠ 0 ∧ moment.late then
      some ((run.say [run.timedOut]).goto .announce)
    else
      some (run.goto .resting)
  | .resting => some (run.goto .lookSeen)
  | .announce =>
    some ((run.say [.progress "Stopping publishers and consumers..."]).goto
      (run.stopPublishersFrom run.consumerCount))
  | .stoppingPublisher number control =>
    run.carryOn number moment.timeUp control (.stoppingPublisher number) fun _ run =>
      run.goto (run.stopPublishersFrom (number + 1))
  | .stoppingConsumer number control =>
    run.carryOn number moment.timeUp control (.stoppingConsumer number) fun _ run =>
      run.goto (run.stopConsumersFrom (number + 1))
  | .report =>
    some ((run.say (run.statistics moment.elapsedMillis)).goto
      (run.dismissPublishersFrom run.consumerCount))
  | .dismissingPublisher number control =>
    run.carryOn number moment.timeUp control (.dismissingPublisher number) fun _ run =>
      run.goto (run.dismissPublishersFrom (number + 1))
  | .dismissingConsumer number control =>
    run.carryOn number moment.timeUp control (.dismissingConsumer number) fun _ run =>
      run.goto (run.dismissConsumersFrom (number + 1))
  | .deleteGroup =>
    let (outcome, run) := run.call (.deleteGroup run.plan.destination run.plan.group)
    some ((run.say [deletion outcome "consumer group" run.plan.group]).goto .deleteDestination)
  | .deleteDestination =>
    let (outcome, run) := run.call (.deleteDestination run.plan.destination)
    some ((run.say [deletion outcome "destination" run.plan.destination]).goto .shutDown)
  | .shutDown =>
    let (_, run) := run.call .shutDown
    some (run.goto (.finished (if run.complete then 0 else 1)))
  | .finished _ => none

/-- One step of the worker of a number. -/
def stepWorker [Client β] (run : Conductor β) (number : Nat) : Option (Conductor β) :=
  (run.crew.step number).map fun crew => { run with crew }

end Conductor
end BrokerLoad
