import BrokerLoad.Crew
import BrokerLoad.Proofs.Run
import BrokerLoad.Proofs.Worker.Lifetime

/-!
# A worker at work among its callers

An `Engagement` is a scene whose worker has an engine for its loop.  While the worker is in its
loop its own thread asks the engine's queries, and any reply may come; for the rest the scene
goes on as scenes do.  So an engagement knows nothing of a broker and nothing of the moments at
which a stop is requested, and a worker that is served by some client is one engagement of many
(`Engagement.Runs.of_worker_step`).
-/

namespace BrokerLoad

namespace Lifecycle

/-- Whether it was the worker's own thread that took a step. -/
def Event.isOwn : Event → Bool
  | .advanced _ _ => true
  | _ => false

namespace Scene

/-- Steps that were taken before others. -/
theorem Runs.head {scene middle final : Scene} {event : Event} {events : List Event}
    (step : scene.Step event middle) (runs : middle.Runs events final) :
    scene.Runs (event :: events) final :=
  (Runs.refl.step step).trans runs

/-- Driving a control is a run in which only its caller takes steps. -/
theorem Runs.of_drive {timeUp : Bool} {callers : List Caller} {log : List LogLine} {number : Nat}
    {asked : Control} (bound : Nat) {control : Control} {life : Lifecycle}
    (calls : callers[number]? = some ⟨asked, control⟩) :
    ∃ events now, (∀ event ∈ events, Event.isOwn event = false) ∧
      (⟨life, callers, log⟩ : Scene).Runs events
        ⟨(Control.drive timeUp bound control life).2.1, callers.set number ⟨asked, now⟩,
          log ++ (Control.drive timeUp bound control life).2.2⟩ := by
  obtain ⟨hlt, hget⟩ := List.getElem?_eq_some_iff.1 calls
  induction bound generalizing control life callers log with
  | zero =>
    refine ⟨[], control, by simp, ?_⟩
    rw [← hget, List.set_getElem_self]
    simpa [Control.drive] using Runs.refl
  | succ bound ih =>
    rw [Control.drive]
    cases hstep : control.step timeUp life with
    | none =>
      refine ⟨[], control, by simp, ?_⟩
      rw [← hget, List.set_getElem_self]
      simpa using Runs.refl
    | some found =>
      obtain ⟨next, later, lines⟩ := found
      have hcalls : (callers.set number ⟨asked, next⟩)[number]? = some ⟨asked, next⟩ :=
        List.getElem?_set_self hlt
      obtain ⟨hlt', hget'⟩ := List.getElem?_eq_some_iff.1 hcalls
      obtain ⟨events, now, hothers, hruns⟩ :=
        @ih (callers.set number ⟨asked, next⟩) (log ++ lines) next later hcalls hlt' hget'
      rw [List.set_set, List.append_assoc] at hruns
      exact ⟨_ :: events, now, List.forall_mem_cons.2 ⟨rfl, hothers⟩,
        hruns.head (.control _ timeUp calls hstep)⟩

/-- So is a stop request, by a caller of its own. -/
theorem Runs.of_interrupt (scene : Scene) (timeUp : Bool) :
    ∃ events callers, (∀ event ∈ events, Event.isOwn event = false) ∧
      scene.Runs events ⟨(scene.life.interrupt timeUp).1, callers,
        scene.log ++ (scene.life.interrupt timeUp).2⟩ := by
  have hcalls : (scene.callers ++ [⟨.stop, .stop⟩])[scene.callers.length]? =
      some (⟨.stop, .stop⟩ : Caller) := List.getElem?_concat_length
  obtain ⟨events, now, hothers, hruns⟩ :=
    @Runs.of_drive timeUp _ scene.log _ _ Control.stepBound _ scene.life hcalls
  exact ⟨_, _, List.forall_mem_cons.2 ⟨rfl, hothers⟩, hruns.head (.call scene .stop)⟩

end Scene
end Lifecycle

open Lifecycle

/-- A worker's lifecycle among its callers, and the engine that is its loop. -/
structure Engagement where
  scene : Scene
  /-- What it does. -/
  engine : Engine

/-- What has happened in one step of an engagement. -/
inductive Deed where
  /-- Something has happened to the lifecycle. -/
  | life (event : Event)
  /-- The engine has asked, and was told. -/
  | asked (exchange : Exchange)

namespace Deed

/-- What happened to the lifecycle, if anything did. -/
@[simp] def event? : Deed → Option Event
  | .life event => some event
  | .asked _ => none

/-- What the engine has asked, if it has. -/
@[simp] def exchange? : Deed → Option Exchange
  | .life _ => none
  | .asked exchange => some exchange

/-- Whether it was the worker's own thread that took the step. -/
@[simp] def isOwn : Deed → Bool
  | .life event => event.isOwn
  | .asked _ => true

end Deed

namespace Engagement

/-- What has happened to the lifecycle. -/
def events (deeds : List Deed) : List Event := deeds.filterMap Deed.event?

/-- What the engine has asked and was told. -/
def exchanges (deeds : List Deed) : List Exchange := deeds.filterMap Deed.exchange?

@[simp] theorem events_append (deeds more : List Deed) :
    events (deeds ++ more) = events deeds ++ events more := List.filterMap_append

@[simp] theorem exchanges_append (deeds more : List Deed) :
    exchanges (deeds ++ more) = exchanges deeds ++ exchanges more := List.filterMap_append

@[simp] theorem events_life (event : Event) : events [.life event] = [event] := rfl

@[simp] theorem events_asked (exchange : Exchange) : events [.asked exchange] = [] := rfl

@[simp] theorem exchanges_life (event : Event) : exchanges [.life event] = [] := rfl

@[simp] theorem exchanges_asked (exchange : Exchange) :
    exchanges [.asked exchange] = [exchange] := rfl

/-- A worker that nobody has done anything with, and its engine. -/
def hire (name : String) (engine : Engine) : Engagement := ⟨.fresh name, engine⟩

/-- One step of somebody. -/
inductive Step : Engagement → Deed → Engagement → Prop
  /-- A caller appears, or takes a step. -/
  | others (engagement : Engagement) {event : Event} {scene : Scene}
      (step : engagement.scene.Step event scene) (other : event.isOwn = false) :
    Step engagement (.life event) ⟨scene, engagement.engine⟩
  /-- The worker's own thread takes a step, and is not in its loop. -/
  | advance (engagement : Engagement) {life : Lifecycle} {lines : List LogLine}
      (outside : engagement.scene.life.phase ≠ .working)
      (step : engagement.scene.life.advance none = some (life, lines)) :
    Step engagement (.life (.advanced engagement.scene.life none))
      ⟨⟨life, engagement.scene.callers, engagement.scene.log ++ lines⟩, engagement.engine⟩
  /-- It leaves the loop, its engine having finished. -/
  | finish (engagement : Engagement) {outcome : Outcome} {life : Lifecycle}
      {lines : List LogLine} (working : engagement.scene.life.phase = .working)
      (finishes : engagement.engine.request engagement.scene.life.name = .finish outcome)
      (step : engagement.scene.life.advance (some outcome) = some (life, lines)) :
    Step engagement (.life (.advanced engagement.scene.life (some outcome)))
      ⟨⟨life, engagement.scene.callers, engagement.scene.log ++ lines⟩, engagement.engine⟩
  /-- Its engine asks; any reply may come. -/
  | ask (engagement : Engagement) {query : Query} {next : query.Reply → Engine}
      (working : engagement.scene.life.phase = .working)
      (asks : engagement.engine.request engagement.scene.life.name = .ask query next)
      (reply : query.Reply) :
    Step engagement (.asked ⟨query, reply⟩) ⟨engagement.scene, next reply⟩

/-- Steps, one after the other. -/
inductive Runs (start : Engagement) : List Deed → Engagement → Prop
  | refl : Runs start [] start
  | step {deeds : List Deed} {engagement after : Engagement} {deed : Deed}
      (before : Runs start deeds engagement) (step : engagement.Step deed after) :
    Runs start (deeds ++ [deed]) after

/-- What callers do in a scene they do in an engagement. -/
theorem Runs.others {start : Engagement} {deeds : List Deed} {engagement : Engagement}
    (before : start.Runs deeds engagement) {events : List Event} {scene : Scene}
    (runs : engagement.scene.Runs events scene)
    (other : ∀ event ∈ events, Event.isOwn event = false) :
    ∃ more, start.Runs more ⟨scene, engagement.engine⟩ := by
  induction runs with
  | refl => exact ⟨deeds, before⟩
  | step _ step ih =>
    rw [List.forall_mem_append, List.forall_mem_singleton] at other
    obtain ⟨more, hmore⟩ := ih other.1
    exact ⟨_, hmore.step (.others _ step other.2)⟩

/-- So does whoever requests a stop while a call is served. -/
theorem Runs.interrupts {start : Engagement} {deeds : List Deed} {engagement : Engagement}
    (before : start.Runs deeds engagement) (stops : List Interruption) :
    ∃ more callers, start.Runs more
      ⟨⟨(Worker.interrupts engagement.scene.life stops).1, callers,
        engagement.scene.log ++ (Worker.interrupts engagement.scene.life stops).2⟩,
        engagement.engine⟩ := by
  induction stops generalizing deeds engagement with
  | nil => exact ⟨deeds, engagement.scene.callers, by simpa [Worker.interrupts] using before⟩
  | cons stop rest ih =>
    obtain ⟨events, callers, hothers, hruns⟩ :=
      Scene.Runs.of_interrupt engagement.scene (stop = .inside)
    obtain ⟨more, hmore⟩ := before.others hruns hothers
    obtain ⟨most, others, hmost⟩ := ih hmore
    exact ⟨most, others, by simpa [Worker.interrupts] using hmost⟩

/-- A worker that is served by a client, whatever client it is, is an engagement. -/
theorem Runs.of_worker_step {β : Type} [Client β] {worker after : Worker}
    {shared later : Shared β} (step : worker.step shared = some (after, later))
    {start : Engagement} {deeds : List Deed} {callers : List Caller} {log : List LogLine}
    (before : start.Runs deeds ⟨⟨worker.life, callers, log⟩, worker.engine⟩) :
    ∃ more callers log, start.Runs more ⟨⟨after.life, callers, log⟩, after.engine⟩ := by
  rw [Worker.step] at step
  split at step
  next working =>
    cases hrequest : worker.engine.request worker.life.name with
    | finish outcome =>
      rw [hrequest] at step
      obtain ⟨⟨life, lines⟩, hadvance, heq⟩ := Option.map_eq_some_iff.1 step
      cases heq
      exact ⟨_, _, _, before.step (.finish _ working hrequest hadvance)⟩
    | ask query next =>
      rw [hrequest] at step
      cases step
      have hask := before.step (.ask _ working hrequest (shared.answer worker.life.stopRequested
        query).reply)
      obtain ⟨more, others, hmore⟩ := hask.interrupts
        (shared.answer worker.life.stopRequested query).stops
      exact ⟨more, others, _, hmore⟩
  next outside =>
    obtain ⟨⟨life, lines⟩, hadvance, heq⟩ := Option.map_eq_some_iff.1 step
    cases heq
    exact ⟨_, _, _, before.step (.advance _ outside hadvance)⟩

end Engagement
end BrokerLoad
