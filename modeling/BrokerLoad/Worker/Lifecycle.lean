import BrokerLoad.Log
import BrokerLoad.Worker.Ending
import BrokerLoad.Worker.Latch

/-!
# The life of a worker

A worker is a thread that runs a work loop once.  What other threads can see of it
is a `Lifecycle`: its state, the reason its loop ended, a latch that asks it to stop
and a latch that tells that it has.  All of these change in single atomic steps, and
two kinds of threads take them.

* The *worker's own thread* goes through the phases of `Phase`: it announces itself,
  works, records how that ended, announces the end and sets the completion latch.
  `advance` is one step of it; what happens inside the work loop is not its
  business, so a step out of `working` needs to be told the outcome.
* *Any number of other threads* control it: they start it, stop it, wait for it and
  look at it.  Each such operation is a `Control`, a small program whose steps
  are given by `Control.step`.  A step may be blocked, and then it is `none`; it may
  also find that its time is up.

Nothing here says in which order the steps of different threads follow each other.
`Control.drive` takes the steps of one control only, as far as they go.

## Swapping

Controls change the state by swaps: a swap looks for one state and puts another in its
place in one step, and leaves any other state alone.  Starting swaps `created` for
`running`; stopping swaps `created` for `stopped`, or else `running` for `stopping`.
The thread itself does not swap: when its loop has ended it writes `stopped` over
whatever is there.
-/

namespace BrokerLoad
namespace Lifecycle

/-- How far a worker has come, as others see it. -/
inductive State where
  /-- It has not been started. -/
  | created
  /-- It has been started. -/
  | running
  | stopping
  /-- Its loop has ended, or will never run. -/
  | stopped
  deriving DecidableEq

namespace State

/-- The state of a code, if it has one. -/
def ofCode? : Nat → Option State
  | 0 => some .created
  | 1 => some .running
  | 2 => some .stopping
  | 3 => some .stopped
  | _ => none

/-- How a state is worded. -/
def text : State → String
  | .created => "created"
  | .running => "running"
  | .stopping => "stopping"
  | .stopped => "stopped"

/-- How the state of a code is worded. -/
def textOfCode (code : Nat) : String :=
  ((ofCode? code).map text).getD "unknown"

end State

/-- Where the worker's own thread is. -/
inductive Phase where
  /-- There is no thread yet. -/
  | absent
  | announcing
  | working
  /-- About to report a fault that came out of the loop. -/
  | complaining (fault : Fault)
  | recording (ending : Ending)
  /-- About to change the state to stopped. -/
  | closing (ending : Ending)
  /-- About to announce the end. -/
  | leaving (ending : Ending)
  /-- About to set the completion latch. -/
  | signalling
  /-- Over, and not yet joined. -/
  | exited
  | joined
  deriving DecidableEq

end Lifecycle

/-- What other threads see of a worker. -/
structure Lifecycle where
  name : String
  /-- How far it has come. -/
  state : Lifecycle.State := .created
  /-- Why its loop ended. -/
  ending : Ending := .unset
  /-- The stop request. -/
  quit : Latch := .ready
  /-- The completion latch. -/
  done : Latch := .ready
  /-- Its own thread. -/
  phase : Lifecycle.Phase := .absent
  /-- Whether a control holds the lock on the thread. -/
  locked : Bool := false
  deriving DecidableEq

namespace Lifecycle

/-- Whether a stop has been requested. -/
def stopRequested (life : Lifecycle) : Bool := life.quit.isSet

/-- Whether the completion latch has been set. -/
def isDone (life : Lifecycle) : Bool := life.done.isSet

/-- How a fault that came out of a work loop is reported. -/
def faultText (name : String) : Fault → String
  | .error what => name ++ " caught unexpected exception: " ++ what
  | .foreign => name ++ " caught unknown exception"

/-- One step of the worker's own thread.  Out of the work loop it needs the outcome of
the loop; without one it is not its turn. -/
def advance (life : Lifecycle) (outcome : Option Outcome) : Option (Lifecycle × List LogLine) :=
  match life.phase with
  | .absent => none
  | .announcing =>
    some ({ life with phase := .working }, [.out (life.name ++ " started")])
  | .working =>
    match outcome with
    | none => none
    | some (.ok ending) => some ({ life with phase := .recording ending }, [])
    | some (.error fault) => some ({ life with phase := .complaining fault }, [])
  | .complaining fault =>
    some ({ life with phase := .recording .unexpectedError }, [.err (faultText life.name fault)])
  | .recording ending =>
    some ({ life with ending := ending, phase := .closing ending }, [])
  | .closing ending =>
    some ({ life with state := .stopped, phase := .leaving ending }, [])
  | .leaving ending =>
    some ({ life with phase := .signalling },
      [.out (life.name ++ " stopped (" ++ ending.text ++ ")")])
  | .signalling =>
    some ({ life with done := life.done.notify.2, phase := .exited }, [])
  | .exited => none
  | .joined => none

/-- What a control answers. -/
inductive Answer where
  | nothing
  /-- Yes or no. -/
  | bool (value : Bool)
  | state (value : State)
  | ending (value : Ending)
  deriving DecidableEq

/-- A control that another thread is carrying out, by the step it takes next. -/
inductive Control where
  | lockToStart
  | swapStart
  /-- Start: create the thread. -/
  | spawn
  /-- Start: give the lock back and answer. -/
  | unlockStart (answer : Bool)
  /-- Stop: swap created for stopped, for a worker that is never to run. -/
  | swapUnstarted
  /-- Stop, never run: request the stop. -/
  | quitUnstarted
  /-- Stop, never run: set the completion latch. -/
  | finishUnstarted
  | swapStop
  | requestStop
  /-- Stop: wait for the completion latch until the deadline. -/
  | awaitStop
  /-- Stop: report that the deadline has passed. -/
  | complain
  /-- Stop: take the lock. -/
  | lockToJoin
  | join
  /-- Stop: give the lock back. -/
  | unlockJoin
  /-- Dismiss: request the stop, then join without a deadline. -/
  | dismiss
  /-- Wait for the completion latch. -/
  | await
  | lookState
  | lookEnding
  /-- Over, with an answer. -/
  | returned (answer : Answer)
  deriving DecidableEq

namespace Control

/-- Starting a worker. -/
def start : Control := .lockToStart

/-- Stopping a worker. -/
def stop : Control := .swapUnstarted

/-- One step of a control, `none` where it is blocked.  `timeUp` says that the deadline
of a wait has passed; it matters only where something is being waited for. -/
def step (timeUp : Bool) (life : Lifecycle) :
    Control → Option (Control × Lifecycle × List LogLine)
  | .lockToStart =>
    if life.locked then none else some (.swapStart, { life with locked := true }, [])
  | .swapStart =>
    if life.state = .created then
      some (.spawn, { life with state := .running }, [])
    else
      some (.unlockStart (life.state = .running), life, [])
  | .spawn => some (.unlockStart true, { life with phase := .announcing }, [])
  | .unlockStart answer => some (.returned (.bool answer), { life with locked := false }, [])
  | .swapUnstarted =>
    if life.state = .created then
      some (.quitUnstarted, { life with state := .stopped }, [])
    else
      some (.swapStop, life, [])
  | .quitUnstarted => some (.finishUnstarted, { life with quit := life.quit.notify.2 }, [])
  | .finishUnstarted => some (.returned .nothing, { life with done := life.done.notify.2 }, [])
  | .swapStop =>
    if life.state = .running then
      some (.requestStop, { life with state := .stopping }, [])
    else
      some (.requestStop, life, [])
  | .requestStop => some (.awaitStop, { life with quit := life.quit.notify.2 }, [])
  | .awaitStop =>
    if life.done.wait then some (.lockToJoin, life, [])
    else if timeUp then some (.complain, life, [])
    else none
  | .complain => some (.returned .nothing, life, [.err (life.name ++ ": shutdown timed out")])
  | .lockToJoin =>
    if life.locked then none else some (.join, { life with locked := true }, [])
  | .join =>
    match life.phase with
    | .absent => some (.unlockJoin, life, [])
    | .joined => some (.unlockJoin, life, [])
    | .exited => some (.unlockJoin, { life with phase := .joined }, [])
    | _ => none
  | .unlockJoin => some (.returned .nothing, { life with locked := false }, [])
  | .dismiss => some (.lockToJoin, { life with quit := life.quit.notify.2 }, [])
  | .await =>
    if life.done.wait then some (.returned (.bool true), life, [])
    else if timeUp then some (.returned (.bool false), life, [])
    else none
  | .lookState => some (.returned (.state life.state), life, [])
  | .lookEnding => some (.returned (.ending life.ending), life, [])
  | .returned _ => none

/-- More steps than any control takes from its beginning. -/
def stepBound : Nat := 10

/-- Takes the steps of a control, and of nobody else, until it is over or blocked. -/
def drive (timeUp : Bool) : Nat → Control → Lifecycle → Control × Lifecycle × List LogLine
  | 0, control, life => (control, life, [])
  | bound + 1, control, life =>
    match control.step timeUp life with
    | none => (control, life, [])
    | some (control, life, lines) =>
      let (control, life, more) := drive timeUp bound control life
      (control, life, lines ++ more)

end Control

/-- The effect of a stop request.  From inside its own thread it cannot be waited for,
so it reports at once that the deadline has passed; from outside it waits, so that
all there is to see is the request. -/
def interrupt (life : Lifecycle) (timeUp : Bool) : Lifecycle × List LogLine :=
  (Control.drive timeUp Control.stepBound .stop life).2

end Lifecycle
end BrokerLoad
