import BrokerLoad.Worker.Lifecycle

/-!
# An idle worker

The simplest work loop there is: it does nothing until it is *released*, and then ends
as it was told to.  It may or may not heed stop requests meanwhile.  `Idler` is a
worker with such a loop, controlled by one thread; since the loop only ever waits, its
thread is taken to have gone as far as it can whenever the controlling thread waits
for it.
-/

namespace BrokerLoad

/-- A worker whose loop does nothing until it is released. -/
structure Idler where
  /-- What is seen of the worker. -/
  life : Lifecycle
  /-- Whether the loop ends at a stop request. -/
  heedsStop : Bool
  /-- How the loop ends once it is released. -/
  afterRelease : Outcome
  released : Bool := false
  /-- What has been written so far. -/
  log : List LogLine := []

namespace Idler

/-- The outcome of the loop, if it ends at all as things are. -/
def outcome (idler : Idler) : Option Outcome :=
  if idler.released then some idler.afterRelease
  else if idler.heedsStop && idler.life.stopRequested then some (.ok .stopRequested)
  else none

/-- One step of the worker's thread. -/
def advance (idler : Idler) : Option Idler :=
  (idler.life.advance idler.outcome).map fun (life, lines) =>
    { idler with life := life, log := idler.log ++ lines }

/-- More steps than a worker's thread takes from beginning to end. -/
def phaseBound : Nat := 10

/-- Lets the worker's thread go as far as it can. -/
def settle : Nat → Idler → Idler
  | 0, idler => idler
  | bound + 1, idler =>
    match idler.advance with
    | none => idler
    | some idler => settle bound idler

/-- Carries out a control.  Where it is blocked the worker's thread goes as far as it
can, and if that does not help, the control's time is up. -/
def perform : Nat → Lifecycle.Control → Idler → Lifecycle.Answer × Idler
  | 0, _, idler => (.nothing, idler)
  | bound + 1, control, idler =>
    match control.step false idler.life with
    | some (control, life, lines) =>
      perform bound control { idler with life := life, log := idler.log ++ lines }
    | none =>
      match control with
      | .returned answer => (answer, idler)
      | _ =>
        let idler := settle phaseBound idler
        match control.step true idler.life with
        | some (control, life, lines) =>
          perform bound control { idler with life := life, log := idler.log ++ lines }
        | none => (.nothing, idler)

/-- What can be done to the worker. -/
inductive Action where
  | start
  | stop
  | wait
  | release
  | name
  deriving DecidableEq

/-- What an action answers. -/
inductive Reply where
  | nothing
  /-- Yes or no. -/
  | bool (value : Bool)
  | text (value : String)
  deriving DecidableEq

/-- A control's answer as a reply. -/
def Reply.ofAnswer : Lifecycle.Answer → Reply
  | .bool value => .bool value
  | .nothing => .nothing
  | .state _ => .nothing
  | .ending _ => .nothing

/-- Does something to the worker. -/
def act (idler : Idler) : Action → Reply × Idler
  | .start =>
    let (answer, idler) := perform Lifecycle.Control.stepBound .start idler
    (.ofAnswer answer, settle phaseBound idler)
  | .stop =>
    let (answer, idler) := perform Lifecycle.Control.stepBound .stop idler
    (.ofAnswer answer, idler)
  | .wait =>
    let (answer, idler) := perform Lifecycle.Control.stepBound .await idler
    (.ofAnswer answer, idler)
  | .release => (.nothing, settle phaseBound { idler with released := true })
  | .name => (.text idler.life.name, idler)

/-- The end of the worker: a loop that heeds no stop request is released, and the thread
is asked to stop and joined. -/
def dismiss (idler : Idler) : Idler :=
  let idler := if idler.heedsStop then idler else settle phaseBound { idler with released := true }
  (perform Lifecycle.Control.stepBound .dismiss idler).2

end Idler
end BrokerLoad
