import BrokerLoad.Proofs.Worker.Standing

/-!
# The lifetime of a worker

Whatever callers a worker has and in whatever order they and its own thread take their steps,
its lifetime is an orderly one: `Scene.IsOrderly` says what that means, and
`Scene.Runs.lives_orderly` that it is so.  Most of it is read off the ways in which a worker
can stand (`Scene.Sound`).  What a caller is told is a matter between it and what it found, so
it has invariants of its own: `Starting` for a caller that starts the worker, `Awaiting` for
one that waits for it.
-/

namespace BrokerLoad
namespace Lifecycle
namespace Scene

variable {name : String} {events more : List Event} {scene after final : Scene} {event : Event}

/-! ## Standing -/

/-- A scene that stands in one of the ways there are, its worker being called by a name. -/
structure Sound (name : String) (events : List Event) (scene : Scene) : Prop where
  named : scene.life.name = name
  valid : scene.life.done.valid = true
  standing : Account.Standing name (scene.account events)

theorem Step.named (step : scene.Step event after) : after.life.name = scene.life.name := by
  cases step with
  | call begins => rfl
  | control timeUp calls step => exact name_of_control step
  | advance outcome step => exact name_of_advance step

theorem Step.valid (step : scene.Step event after) (valid : scene.life.done.valid = true) :
    after.life.done.valid = true := by
  cases step with
  | call begins => exact valid
  | control timeUp calls step => exact valid_of_control step valid
  | advance outcome step => exact valid_of_advance step valid

/-- A scene moves with each of its steps. -/
theorem Step.move (step : scene.Step event after) (named : scene.life.name = name)
    (valid : scene.life.done.valid = true) :
    (scene.account events).Move name (after.account (events ++ [event])) := by
  cases step with
  | call begins =>
    have moves : (scene.account events).Move name _ := .stay
    convert moves using 1
    cases begins <;>
      simp [account, Control.start, Control.stop]
  | control timeUp calls step => exact move_of_control name valid calls step
  | advance outcome step => exact move_of_advance named valid step

namespace Sound

theorem fresh (name : String) : Sound name [] (.fresh name) := ⟨rfl, rfl, .untouched⟩

theorem step (sound : Sound name events scene) (step : scene.Step event after) :
    Sound name (events ++ [event]) after where
  named := step.named.trans sound.named
  valid := step.valid sound.valid
  standing := sound.standing.move (step.move sound.named sound.valid)

theorem runs (sound : Sound name events scene) (runs : scene.Runs more final) :
    Sound name (events ++ more) final := by
  induction runs with
  | refl => simpa using sound
  | step _ step ih =>
    rw [← List.append_assoc]
    exact ih.step step

/-- Once the completion latch is set it stays so, and the ending stays as it is. -/
theorem settled (sound : Sound name events scene) (runs : scene.Runs more final)
    (isDone : scene.life.isDone = true) :
    final.life.isDone = true ∧ final.life.ending = scene.life.ending := by
  induction runs with
  | refl => exact ⟨isDone, rfl⟩
  | step before step ih =>
    have hsound := sound.runs before
    have hfinal := hsound.standing.final (step.move hsound.named hsound.valid) ih.1
    exact ⟨hfinal.1, hfinal.2.trans ih.2⟩

end Sound

/-! ## What callers are told -/

/-- How far a caller has come that starts the worker, and the states that it has found. -/
inductive Starting : Control → List State → Prop
  | lockToStart : Starting .lockToStart []
  | swapStart : Starting .swapStart []
  | spawn : Starting .spawn [.created]
  | unlock (found : State) :
    Starting (.unlockStart (found = .created ∨ found = .running)) [found]
  | returned (found : State) :
    Starting (.returned (.bool (found = .created ∨ found = .running))) [found]

/-- How far a caller has come that waits for the worker. -/
inductive Awaiting (life : Lifecycle) : Control → Prop
  | await : Awaiting life .await
  | returned (answer : Bool) (honest : answer = true → life.isDone = true) :
    Awaiting life (.returned (.bool answer))

/-- A caller that starts the worker goes on, and whatever state it finds is noted. -/
theorem Starting.step {control now : Control} {found : List State} {timeUp : Bool}
    {life later : Lifecycle} {lines : List LogLine} (starting : Starting control found)
    (step : control.step timeUp life = some (now, later, lines)) (number : Nat) :
    Starting now
      (found ++ [Event.controlled number control life].filterMap (Event.found? number)) := by
  cases starting with
  | lockToStart =>
    simp only [Control.step] at step
    split at step <;> cases step
    exact .swapStart
  | swapStart =>
    simp only [Control.step] at step
    split at step <;> rename_i hstate <;> cases step
    · simpa [hstate] using Starting.spawn
    · simpa [hstate] using Starting.unlock life.state
  | spawn =>
    cases step
    exact Starting.unlock .created
  | unlock found =>
    cases step
    exact .returned found
  | returned found => cases step

/-- What the callers of a scene are doing. -/
structure Attends (events : List Event) (scene : Scene) : Prop where
  starting : ∀ {number : Nat} {caller : Caller}, scene.callers[number]? = some caller →
    caller.asked = .start → Starting caller.now (events.filterMap (Event.found? number))
  awaiting : ∀ caller ∈ scene.callers, caller.asked = .await → Awaiting scene.life caller.now
  /-- Who has not come yet has found nothing. -/
  absent : ∀ {number : Nat}, scene.callers.length ≤ number →
    events.filterMap (Event.found? number) = []

namespace Attends

theorem fresh (name : String) : Attends [] (.fresh name) where
  starting := by simp [Scene.fresh]
  awaiting := by simp [Scene.fresh]
  absent _ := rfl

/-- A caller that waits goes on waiting, or is told what is so. -/
theorem awaiting_step {control now : Control} {timeUp : Bool} {life later : Lifecycle}
    {lines : List LogLine} (awaiting : Awaiting life control)
    (step : control.step timeUp life = some (now, later, lines)) : Awaiting later now := by
  cases awaiting with
  | await =>
    simp only [Control.step] at step
    (repeat' split at step) <;> rename_i hwait <;> cases step
    · exact .returned true fun _ => by simp_all [Latch.wait, Lifecycle.isDone]
    · exact .returned false (by simp)
  | returned answer honest => cases step

/-- Whoever else takes a step, what has been announced stays announced. -/
theorem Awaiting.mono {life later : Lifecycle} {control : Control}
    (awaiting : Awaiting life control) (kept : life.isDone = true → later.isDone = true) :
    Awaiting later control := by
  cases awaiting with
  | await => exact .await
  | returned answer honest => exact .returned answer fun h => kept (honest h)

/-- A step that is no attempt of a caller to start the worker adds nothing to what it has found. -/
theorem found_of_other {number : Nat} (other : Event.found? number event = none) :
    (events ++ [event]).filterMap (Event.found? number) =
      events.filterMap (Event.found? number) := by
  rw [List.filterMap_append, List.filterMap_cons_none other, List.filterMap_nil, List.append_nil]

theorem found_controlled {number other : Nat} (hne : number ≠ other) (control : Control)
    (life : Lifecycle) : Event.found? other (.controlled number control life) = none := by
  cases control <;> simp [hne]

theorem step (attends : Attends events scene) (sound : Sound name events scene)
    (step : scene.Step event after) : Attends (events ++ [event]) after := by
  have hkept : scene.life.isDone = true → after.life.isDone = true := fun isDone =>
    (sound.settled (Runs.refl.step step) isDone).1
  cases step with
  | @call asked begins =>
    refine ⟨fun {number caller} calls asks => ?_, fun caller hmem asks => ?_,
      fun {number} hle => ?_⟩
    · rw [found_of_other rfl]
      rcases Nat.lt_or_ge number scene.callers.length with hlt | hge
      · rw [List.getElem?_append_left hlt] at calls
        exact attends.starting calls asks
      · rw [List.getElem?_append_right hge, List.getElem?_singleton] at calls
        split at calls <;> cases calls
        rw [attends.absent hge, show asked = .start from asks]
        exact .lockToStart
    · rcases List.mem_append.1 hmem with hold | hnew
      · exact attends.awaiting caller hold asks
      · obtain rfl := List.mem_singleton.1 hnew
        rw [show asked = .await from asks]
        exact .await
    · rw [found_of_other rfl]
      exact attends.absent (by simp at hle; omega)
  | @control timeUp number caller calls now life lines step =>
    have hlt := (List.getElem?_eq_some_iff.1 calls).1
    refine ⟨fun {other next} found asks => ?_, fun next hmem asks => ?_, fun {other} hle => ?_⟩
    · rcases Decidable.em (number = other) with rfl | hne
      · rw [List.getElem?_set_self hlt] at found
        cases found
        rw [List.filterMap_append]
        exact (attends.starting calls asks).step step number
      · rw [List.getElem?_set_ne hne] at found
        rw [found_of_other (found_controlled hne _ _)]
        exact attends.starting found asks
    · rcases List.mem_or_eq_of_mem_set hmem with hold | rfl
      · exact Awaiting.mono (attends.awaiting next hold asks) hkept
      · exact awaiting_step (attends.awaiting caller (List.mem_of_getElem? calls) asks) step
    · rw [List.length_set] at hle
      rw [found_of_other (found_controlled (by omega) _ _)]
      exact attends.absent hle
  | advance outcome step =>
    refine ⟨fun calls asks => ?_, fun caller hmem asks => ?_, fun hle => ?_⟩
    · rw [found_of_other rfl]
      exact attends.starting calls asks
    · exact Awaiting.mono (attends.awaiting caller hmem asks) hkept
    · rw [found_of_other rfl]
      exact attends.absent hle

end Attends

/-! ## Orderly lifetimes -/

/-- A lifetime as it should be: a scene that has been reached from the beginning, and one that
was reached from it later. -/
structure IsOrderly (name : String) (events : List Event) (scene final : Scene) : Prop where
  /-- The state only moves forward. -/
  forward : scene.life.state.rank ≤ final.life.state.rank
  /-- The work loop is entered once at most. -/
  entered_once : events.countP Event.isEntry ≤ 1
  /-- It is not entered at all if a stop came before any start. -/
  not_entered : 0 < events.countP Event.isCancel → events.countP Event.isEntry = 0
  /-- Whoever starts the worker is told whether it was new, or running already. -/
  told : ∀ {number : Nat} {answer : Answer},
    scene.callers[number]? = some ⟨.start, .returned answer⟩ →
      ∃ found, events.filterMap (Event.found? number) = [found] ∧
        answer = .bool (found = .created ∨ found = .running)
  /-- Whoever is told that the worker has stopped finds its completion latch set. -/
  waited : ⟨.await, .returned (.bool true)⟩ ∈ scene.callers → scene.life.isDone = true
  stopped : scene.life.isDone = true → scene.life.state = .stopped
  /-- The latch stays set, and the ending as it is. -/
  settled : scene.life.isDone = true →
    final.life.isDone = true ∧ final.life.ending = scene.life.ending
  /-- The ending says how the loop ended, if it ever ran. -/
  ending : scene.life.isDone = true →
    (events.countP Event.isEntry = 0 ∧ events.filterMap Event.outcome? = [] ∧
        scene.life.ending = .unset) ∨
      ∃ outcome, events.countP Event.isEntry = 1 ∧ events.filterMap Event.outcome? = [outcome] ∧
        scene.life.ending = verdict outcome
  /-- A worker that was started has said that it began and how it ended, in this order and once
  each; one that was not has said nothing. -/
  said : scene.life.isDone = true →
    scene.log.filter (·.stream = .out) =
      if 0 < events.countP Event.isStart then
        [startedLine name, stoppedLine name scene.life.ending]
      else []

theorem Runs.sound (runs : (fresh name).Runs events scene) : Sound name events scene := by
  simpa using (Sound.fresh name).runs runs

theorem Runs.attends (runs : (fresh name).Runs events scene) : Attends events scene := by
  induction runs with
  | refl => exact .fresh name
  | step before step ih => exact ih.step before.sound step

/-- Every lifetime is an orderly one, whoever controls the worker and whoever comes first. -/
theorem Runs.lives_orderly (runs : (fresh name).Runs events scene)
    (goesOn : scene.Runs more final) :
    IsOrderly name events scene final where
  forward := goesOn.rank_le
  entered_once := runs.sound.standing.entries_le_one
  not_entered := runs.sound.standing.entries_of_cancels
  told calls := by
    have hstarting := runs.attends.starting calls rfl
    generalize events.filterMap _ = found at hstarting ⊢
    cases hstarting with
    | returned state => exact ⟨state, rfl, rfl⟩
  waited hmem := by
    cases runs.attends.awaiting _ hmem rfl with
    | returned answer honest => exact honest rfl
  stopped := runs.sound.standing.state_of_isDone
  settled := runs.sound.settled goesOn
  ending := runs.sound.standing.ending_of_isDone
  said := runs.sound.standing.said_of_isDone

/-- A stop overlaps the start of a worker, which ends for that reason. -/
theorem orderly_of_early_stop : ∃ events scene, (fresh "worker").Runs events scene ∧
    scene.life.isDone = true ∧ scene.callers[0]? = some ⟨.start, .returned (.bool true)⟩ ∧
    ⟨.await, .returned (.bool true)⟩ ∈ scene.callers ∧
    scene.life.ending = .stopRequested ∧ IsOrderly "worker" events scene scene := by
  have runs : (fresh "worker").Runs [] (fresh "worker") := .refl
  have runs := (runs.step (.call _ .start)).step (.call _ .stop)
  have runs := runs.step (@Step.control _ false 0 _ rfl _ _ _ rfl)
  have runs := runs.step (@Step.control _ false 0 _ rfl _ _ _ rfl)
  -- The stop finds the worker started, though its thread is yet to be created.
  have runs := runs.step (@Step.control _ false 1 _ rfl _ _ _ rfl)
  have runs := runs.step (@Step.control _ false 1 _ rfl _ _ _ rfl)
  have runs := runs.step (@Step.control _ false 0 _ rfl _ _ _ rfl)
  have runs := runs.step (@Step.control _ false 0 _ rfl _ _ _ rfl)
  have runs := runs.step (@Step.control _ false 1 _ rfl _ _ _ rfl)
  have runs := runs.step (.advance _ none rfl)
  have runs := runs.step (.advance _ (some (.ok .stopRequested)) rfl)
  have runs := runs.step (.advance _ none rfl)
  have runs := runs.step (.advance _ none rfl)
  have runs := runs.step (.advance _ none rfl)
  have runs := runs.step (.advance _ none rfl)
  have runs := (runs.step (.call _ .await)).step (@Step.control _ false 2 _ rfl _ _ _ rfl)
  exact ⟨_, _, runs, rfl, rfl, List.mem_of_getElem? (i := 2) rfl, rfl, runs.lives_orderly .refl⟩

end Scene
end Lifecycle
end BrokerLoad
