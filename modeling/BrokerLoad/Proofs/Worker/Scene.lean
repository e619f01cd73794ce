import BrokerLoad.Worker.Lifecycle

/-!
# A worker and its callers

A `Scene` is a worker's lifecycle together with all the threads that control it.  A thread
appears with something that it was asked to do, a `Caller`, and from then on its steps and those
of the worker's own thread follow each other in any order at all.  `Scene.Step` is one such
step, and the `Event` that belongs to it says who took it and what was found; `Scene.Runs`
strings steps together and keeps the events, first one first.

What a control can do to the lifecycle is little.  `Control.Effect` lists it: six steps change
the state, the thread or the completion latch, and all others change nothing of that kind
(`Control.effect_of_step`).
-/

namespace BrokerLoad
namespace Lifecycle

/-- How a work loop's outcome is recorded. -/
def verdict : Outcome → Ending
  | .ok ending => ending
  | .error _ => .unexpectedError

namespace State

/-- The order in which states may follow each other. -/
@[simp] def rank : State → Nat
  | .created => 0
  | .running => 1
  | .stopping => 2
  | .stopped => 3

end State

namespace Control

/-- What another thread may be asked to do with a worker. -/
inductive IsBeginning : Control → Prop
  | start : IsBeginning .start
  | stop : IsBeginning .stop
  | dismiss : IsBeginning .dismiss
  | await : IsBeginning .await
  | lookState : IsBeginning .lookState
  | lookEnding : IsBeginning .lookEnding

/-- Whether a control is about to create the thread. -/
@[simp] def isSpawning : Control → Bool
  | .spawn => true
  | _ => false

/-- Whether a control has stopped a worker that was never started, and is yet to tell. -/
@[simp] def isCancelling : Control → Bool
  | .quitUnstarted => true
  | .finishUnstarted => true
  | _ => false

/-- What one step of a control does to the lifecycle that it finds. -/
inductive Effect : Control → Lifecycle → Control → Lifecycle → Prop
  | start {life : Lifecycle} (found : life.state = .created) :
    Effect .swapStart life .spawn { life with state := .running }
  | spawn (life : Lifecycle) :
    Effect .spawn life (.unlockStart true) { life with phase := .announcing }
  | cancel {life : Lifecycle} (found : life.state = .created) :
    Effect .swapUnstarted life .quitUnstarted { life with state := .stopped }
  | finish (life : Lifecycle) :
    Effect .finishUnstarted life (.returned .nothing) { life with done := life.done.notify.2 }
  | stop {life : Lifecycle} (found : life.state = .running) :
    Effect .swapStop life .requestStop { life with state := .stopping }
  | join {life : Lifecycle} (found : life.phase = .exited) :
    Effect .join life .unlockJoin { life with phase := .joined }
  /-- Nothing but the lock and the stop request changes. -/
  | pass {control now : Control} {life after : Lifecycle} (named : after.name = life.name)
      (state : after.state = life.state) (phase : after.phase = life.phase)
      (ending : after.ending = life.ending) (done : after.done = life.done)
      (idle : control ≠ .spawn ∧ control ≠ .finishUnstarted)
      (spawning : now.isSpawning = false)
      (cancelling : now.isCancelling = control.isCancelling)
      (swaps : control = .swapStart ∨ control = .swapUnstarted → life.state ≠ .created) :
    Effect control life now after

/-- What a step of a control does, and that it writes nothing to standard output. -/
theorem effect_of_step {timeUp : Bool} {life after : Lifecycle} {control now : Control}
    {lines : List LogLine} (step : control.step timeUp life = some (now, after, lines)) :
    control.Effect life now after ∧ lines.filter (·.stream = .out) = [] := by
  cases control with
  | swapStart =>
    simp only [Control.step] at step
    split at step <;> cases step
    · exact ⟨.start ‹_›, rfl⟩
    · exact ⟨.pass rfl rfl rfl rfl rfl (by simp) rfl rfl fun _ => ‹_›, rfl⟩
  | spawn =>
    cases step
    exact ⟨.spawn life, rfl⟩
  | swapUnstarted =>
    simp only [Control.step] at step
    split at step <;> cases step
    · exact ⟨.cancel ‹_›, rfl⟩
    · exact ⟨.pass rfl rfl rfl rfl rfl (by simp) rfl rfl fun _ => ‹_›, rfl⟩
  | finishUnstarted =>
    cases step
    exact ⟨.finish life, rfl⟩
  | swapStop =>
    simp only [Control.step] at step
    split at step <;> cases step
    · exact ⟨.stop ‹_›, rfl⟩
    · exact ⟨.pass rfl rfl rfl rfl rfl (by simp) rfl rfl (by simp), rfl⟩
  | join =>
    simp only [Control.step] at step
    split at step <;> cases step
    · exact ⟨.pass rfl rfl rfl rfl rfl (by simp) rfl rfl (by simp), rfl⟩
    · exact ⟨.pass rfl rfl rfl rfl rfl (by simp) rfl rfl (by simp), rfl⟩
    · exact ⟨.join ‹_›, rfl⟩
  | _ =>
    simp only [Control.step] at step
    (repeat' split at step) <;> cases step <;>
      exact ⟨.pass rfl rfl rfl rfl rfl (by simp) rfl rfl (by simp), rfl⟩

theorem Effect.rank_le {control now : Control} {life after : Lifecycle}
    (effect : control.Effect life now after) : life.state.rank ≤ after.state.rank := by
  cases effect with
  | start found => simp [found]
  | cancel found => simp [found]
  | stop found => simp [found]
  | pass named state => exact Nat.le_of_eq (congrArg State.rank state.symm)
  | _ => exact Nat.le_refl _

end Control

/-- The worker's own thread does not move the state back either. -/
theorem rank_le_of_advance {life after : Lifecycle} {outcome : Option Outcome}
    {lines : List LogLine} (step : life.advance outcome = some (after, lines)) :
    life.state.rank ≤ after.state.rank := by
  simp only [advance] at step
  (repeat' split at step) <;> cases step <;> dsimp only <;> try exact Nat.le_refl _
  -- Left is the one step that writes `stopped` over whatever is there.
  cases life.state <;> simp

theorem name_of_advance {life after : Lifecycle} {outcome : Option Outcome}
    {lines : List LogLine} (advances : life.advance outcome = some (after, lines)) :
    after.name = life.name := by
  rw [advance.eq_def] at advances
  repeat' split at advances
  all_goals cases advances
  all_goals rfl

theorem name_of_control {life after : Lifecycle} {control next : Control} {timeUp : Bool}
    {lines : List LogLine} (steps : control.step timeUp life = some (next, after, lines)) :
    after.name = life.name := by
  cases (Control.effect_of_step steps).1 with
  | pass named => exact named
  | _ => rfl

/-- The completion latch, once created, stays ready for use. -/
theorem valid_of_advance {life after : Lifecycle} {outcome : Option Outcome}
    {lines : List LogLine} (advances : life.advance outcome = some (after, lines))
    (valid : life.done.valid = true) : after.done.valid = true := by
  rw [advance.eq_def] at advances
  repeat' split at advances
  all_goals cases advances
  all_goals simp [Latch.notify, valid]

theorem valid_of_control {life after : Lifecycle} {control next : Control} {timeUp : Bool}
    {lines : List LogLine} (steps : control.step timeUp life = some (next, after, lines))
    (valid : life.done.valid = true) : after.done.valid = true := by
  cases (Control.effect_of_step steps).1 with
  | pass named state phase ending done => rw [done, valid]
  | finish => simp [Latch.notify, valid]
  | _ => exact valid

/-- A thread that controls a worker: what it was asked to do, and the step it takes next. -/
structure Caller where
  asked : Control
  /-- The step it takes next. -/
  now : Control

/-- A worker's lifecycle, the threads that control it, and what has been written. -/
structure Scene where
  life : Lifecycle
  callers : List Caller := []
  /-- What has been written so far. -/
  log : List LogLine := []

/-- What has happened to a worker in one step. -/
inductive Event where
  /-- A caller has appeared. -/
  | called (asked : Control)
  /-- The caller of a number has taken a step of a control. -/
  | controlled (number : Nat) (control : Control) (found : Lifecycle)
  /-- The worker's own thread has taken a step, with an outcome where its loop had ended. -/
  | advanced (found : Lifecycle) (outcome : Option Outcome)

namespace Event

/-- Whether a worker was started. -/
@[simp] def isStart : Event → Bool
  | .controlled _ .swapStart found => found.state = .created
  | _ => false

/-- Whether a stop took a worker that had not been started. -/
@[simp] def isCancel : Event → Bool
  | .controlled _ .swapUnstarted found => found.state = .created
  | _ => false

/-- Whether the work loop was entered. -/
@[simp] def isEntry : Event → Bool
  | .advanced found _ => found.phase = .announcing
  | _ => false

/-- What came out of the work loop, if it was left. -/
@[simp] def outcome? : Event → Option Outcome
  | .advanced found outcome => if found.phase = .working then outcome else none
  | _ => none

/-- The state that a caller's attempt to start the worker found, if it was one. -/
@[simp] def found? (number : Nat) : Event → Option State
  | .controlled other .swapStart found => if other = number then some found.state else none
  | _ => none

end Event

namespace Scene

/-- A worker that nobody has done anything with. -/
def fresh (name : String) : Scene := { life := { name := name } }

/-- One step of somebody. -/
inductive Step : Scene → Event → Scene → Prop
  | call (scene : Scene) {asked : Control} (begins : asked.IsBeginning) :
    Step scene (.called asked) { scene with callers := scene.callers ++ [⟨asked, asked⟩] }
  /-- A caller takes a step; the time of a wait may be up or not. -/
  | control (scene : Scene) (timeUp : Bool) {number : Nat} {caller : Caller}
      (calls : scene.callers[number]? = some caller) {now : Control} {life : Lifecycle}
      {lines : List LogLine} (step : caller.now.step timeUp scene.life = some (now, life, lines)) :
    Step scene (.controlled number caller.now scene.life)
      ⟨life, scene.callers.set number ⟨caller.asked, now⟩, scene.log ++ lines⟩
  /-- The worker's own thread takes a step; its loop may end in any way. -/
  | advance (scene : Scene) (outcome : Option Outcome) {life : Lifecycle} {lines : List LogLine}
      (step : scene.life.advance outcome = some (life, lines)) :
    Step scene (.advanced scene.life outcome) ⟨life, scene.callers, scene.log ++ lines⟩

/-- Steps, one after the other. -/
inductive Runs (start : Scene) : List Event → Scene → Prop
  | refl : Runs start [] start
  | step {events : List Event} {scene after : Scene} {event : Event}
      (before : Runs start events scene) (step : scene.Step event after) :
    Runs start (events ++ [event]) after

/-- A run can be continued. -/
theorem Runs.trans {start scene final : Scene} {events more : List Event}
    (first : start.Runs events scene) (second : scene.Runs more final) :
    start.Runs (events ++ more) final := by
  induction second with
  | refl => simpa using first
  | step _ step ih =>
    rw [← List.append_assoc]
    exact ih.step step

/-- The state only moves forward, whatever the step and whoever takes it. -/
theorem Step.rank_le {scene after : Scene} {event : Event} (step : scene.Step event after) :
    scene.life.state.rank ≤ after.life.state.rank := by
  cases step with
  | call begins => exact Nat.le_refl _
  | control timeUp calls step => exact (Control.effect_of_step step).1.rank_le
  | advance outcome step => exact rank_le_of_advance step

theorem Runs.rank_le {start scene : Scene} {events : List Event}
    (runs : start.Runs events scene) : start.life.state.rank ≤ scene.life.state.rank := by
  induction runs with
  | refl => exact Nat.le_refl _
  | step _ step ih => exact Nat.le_trans ih step.rank_le

end Scene
end Lifecycle
end BrokerLoad
