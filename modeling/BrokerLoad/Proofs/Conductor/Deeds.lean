import BrokerLoad.Proofs.Conductor.Reach
import BrokerLoad.Proofs.Crew.Courses

/-!
# What a step does

A step of the conductor is a `Deed`, unless it counts: it turns to something else, it carries a
control of a worker on, or it makes a call.  `Leads` and `Asks` are the arrows from point to
point, and `Task` are the five things that it does with one worker after another.

A step of a worker, seen from outside, changes that worker alone: its engine asks or rests
(`Engine.Goes`), and it has a thread that can take steps (`Crew.exists_of_step`).  What a
control does to a worker is `Crew.exists_of_control`.

`Reaches.deed_induction` puts the steps together: most of what is said of a run is kept by what
a worker does and by deeds, and has nothing to do with the count.
-/

namespace BrokerLoad
namespace Conductor

variable {β : Type}

/-- What the conductor does with one worker after another. -/
inductive Task where
  | starting
  | stoppingPublisher
  | stoppingConsumer
  /-- Let the publishers go. -/
  | dismissingPublisher
  | dismissingConsumer

namespace Task

/-- The point where it does it with the worker of a number. -/
def point : Task → Nat → Lifecycle.Control → Point
  | .starting => .starting
  | .stoppingPublisher => .stoppingPublisher
  | .stoppingConsumer => .stoppingConsumer
  | .dismissingPublisher => .dismissingPublisher
  | .dismissingConsumer => .dismissingConsumer

/-- Where it goes on from a worker number. -/
def onFrom (run : Conductor β) (number : Nat) : Task → Point
  | .starting => run.startFrom number
  | .stoppingPublisher => run.stopPublishersFrom number
  | .stoppingConsumer => run.stopConsumersFrom number
  | .dismissingPublisher => run.dismissPublishersFrom number
  | .dismissingConsumer => run.dismissConsumersFrom number

/-- The first step that it takes with a worker. -/
def first : Task → Lifecycle.Control
  | .starting => .start
  | .stoppingPublisher => .stop
  | .stoppingConsumer => .stop
  | .dismissingPublisher => .dismiss
  | .dismissingConsumer => .dismiss

end Task

/-- What holds at the point of the next worker, and at the one after the last, holds where it
goes on. -/
theorem each_cases {P : Point → Prop} {number bound : Nat} {point : Nat → Point} {last : Point}
    (more : number < bound → P (point number)) (none_left : bound ≤ number → P last) :
    P (each number bound point last) := by
  rw [each]
  split
  next hlt => exact more hlt
  next hge => exact none_left (Nat.le_of_not_lt hge)

/-- What holds where a worker is turned to, and where there are none left, holds wherever the
conductor goes on. -/
theorem onFrom_cases {run : Conductor β} {P : Point → Prop}
    (worker : ∀ (task : Task) number, P (task.point number task.first)) (look : P .lookSeen)
    (report : P .report) (delete : P .deleteGroup) (task : Task) (number : Nat) :
    P (task.onFrom run number) := by
  have hdismissConsumers : ∀ number, P (run.dismissConsumersFrom number) := fun number => by
    rw [dismissConsumersFrom]
    exact each_cases (fun _ => worker .dismissingConsumer number) fun _ => delete
  have hstopConsumers : ∀ number, P (run.stopConsumersFrom number) := fun number => by
    rw [stopConsumersFrom]
    exact each_cases (fun _ => worker .stoppingConsumer number) fun _ => report
  cases task with
  | starting =>
    rw [Task.onFrom, startFrom]
    exact each_cases (fun _ => worker .starting number) fun _ => look
  | stoppingPublisher =>
    rw [Task.onFrom, stopPublishersFrom]
    exact each_cases (fun _ => worker .stoppingPublisher number) fun _ => hstopConsumers 0
  | stoppingConsumer => exact hstopConsumers number
  | dismissingPublisher =>
    rw [Task.onFrom, dismissPublishersFrom]
    exact each_cases (fun _ => worker .dismissingPublisher number) fun _ => hdismissConsumers 0
  | dismissingConsumer => exact hdismissConsumers number

/-- Where the conductor turns without having to do with a worker or the hub. -/
inductive Leads (run : Conductor Hub) : Point → Point → Prop where
  | interrupt : Leads run .lookInterrupt .announce
  | goOn : Leads run .lookInterrupt .lookTime
  /-- The time is over. -/
  | timeOut : Leads run .lookTime .announce
  | rest : Leads run .lookTime .resting
  | wake : Leads run .resting .lookSeen
  /-- The workers are to be stopped. -/
  | stop : Leads run .announce (run.stopPublishersFrom run.consumerCount)
  /-- The workers are to be let go. -/
  | dismiss : Leads run .report (run.dismissPublishersFrom run.consumerCount)
  /-- One worker is done with. -/
  | next (task : Task) (number : Nat) (answer : Lifecycle.Answer) :
    Leads run (task.point number (.returned answer)) (task.onFrom run (number + 1))

/-- Which call the conductor makes at a point, and where it turns on the reply. -/
inductive Asks (run : Conductor Hub) : Point → (call : Call) → (call.Reply → Point) → Prop where
  | createDestination :
    Asks run .createDestination (.createDestination run.plan.destinationSpec) fun outcome =>
      if (creation outcome "destination" run.plan.destination).1 then .createGroup
      else .finished 1
  | createGroup :
    Asks run .createGroup (.createGroup run.plan.groupSpec) fun outcome =>
      if (creation outcome "consumer group" run.plan.group).1 then run.startFrom 0
      else .finished 1
  | deleteGroup :
    Asks run .deleteGroup (.deleteGroup run.plan.destination run.plan.group) fun _ =>
      .deleteDestination
  | deleteDestination :
    Asks run .deleteDestination (.deleteDestination run.plan.destination) fun _ => .shutDown
  | shutDown :
    Asks run .shutDown .shutDown fun _ => .finished (if run.complete then 0 else 1)

/-- What a step of the conductor does, unless it counts. -/
inductive Deed (run : Conductor Hub) : Conductor Hub → Prop where
  /-- It turns to something else. -/
  | turn {here there : Point} (lines : List LogLine) (found : run.point = here)
      (leads : run.Leads here there) :
    Deed run ((run.say lines).goto there)
  /-- It takes a step of a control. -/
  | control {task : Task} {number : Nat} {control next : Lifecycle.Control} {timeUp : Bool}
      {crew : Crew Hub} (found : run.point = task.point number control)
      (steps : run.crew.control number timeUp control = some (next, crew)) :
    Deed run ({ run with crew }.goto (task.point number next))
  /-- It makes a call. -/
  | ask {here : Point} {call : Call} {onward : call.Reply → Point} (lines : List LogLine)
      (found : run.point = here) (asks : run.Asks here call onward) :
    Deed run (((run.call call).2.say lines).goto (onward (run.call call).1))

theorem say_nil (run : Conductor β) : run.say [] = run := by
  rw [say, Shared.say, List.append_nil]

/-- A control that is carried on has answered, or takes a step. -/
theorem carryOn_cases {run after : Conductor Hub} {number : Nat} {timeUp : Bool}
    {control : Lifecycle.Control} {more : Lifecycle.Control → Point}
    {onward : Lifecycle.Answer → Conductor Hub → Conductor Hub}
    (carries : run.carryOn number timeUp control more onward = some after) :
    (∃ answer, control = .returned answer ∧ after = onward answer run) ∨
      ∃ next crew, run.crew.control number timeUp control = some (next, crew) ∧
        after = { run with crew }.goto (more next) := by
  rw [carryOn.eq_def] at carries
  split at carries
  next answer =>
    cases carries
    exact .inl ⟨answer, rfl, rfl⟩
  next =>
    obtain ⟨⟨next, crew⟩, hsteps, rfl⟩ := Option.map_eq_some_iff.1 carries
    exact .inr ⟨next, crew, hsteps, rfl⟩

/-- A task is carried on with a worker. -/
theorem Deed.of_carryOn {run after : Conductor Hub} (task : Task) {number : Nat} {timeUp : Bool}
    {control : Lifecycle.Control} {onward : Lifecycle.Answer → Conductor Hub → Conductor Hub}
    (here : run.point = task.point number control)
    (goesOn : ∀ answer, ∃ lines,
      onward answer run = (run.say lines).goto (task.onFrom run (number + 1)))
    (carries : run.carryOn number timeUp control (task.point number) onward = some after) :
    run.Deed after := by
  rcases carryOn_cases carries with ⟨answer, rfl, rfl⟩ | ⟨next, crew, hsteps, rfl⟩
  · obtain ⟨lines, honward⟩ := goesOn answer
    rw [honward]
    exact .turn lines here (.next task number answer)
  · exact .control here hsteps

/-- What the conductor does in a step. -/
theorem Deed.of_step {run after : Conductor Hub} {moment : Moment}
    (elsewhere : run.point ≠ .lookSeen) (steps : run.step moment = some after) :
    run.Deed after := by
  have hsilent : ∀ point, run.goto point = (run.say []).goto point := fun _ => by rw [say_nil]
  rw [step.eq_def] at steps
  cases here : run.point with
  | createDestination =>
    rw [here] at steps
    cases steps
    exact .ask _ here .createDestination
  | createGroup =>
    rw [here] at steps
    cases steps
    exact .ask _ here .createGroup
  | starting number control =>
    rw [here] at steps
    refine .of_carryOn .starting here (fun answer => ?_) steps
    by_cases hfailed : answer = .bool false
    · simp only [if_pos hfailed]
      exact ⟨_, rfl⟩
    · simp only [if_neg hfailed]
      exact ⟨[], hsilent _⟩
  | lookSeen => exact absurd here elsewhere
  | lookInterrupt =>
    rw [here] at steps
    dsimp only at steps
    split at steps <;> cases steps
    · exact .turn _ here .interrupt
    · exact hsilent _ ▸ .turn [] here .goOn
  | lookTime =>
    rw [here] at steps
    dsimp only at steps
    split at steps <;> cases steps
    · exact .turn _ here .timeOut
    · exact hsilent _ ▸ .turn [] here .rest
  | resting =>
    rw [here] at steps
    cases steps
    exact hsilent _ ▸ .turn [] here .wake
  | announce =>
    rw [here] at steps
    cases steps
    exact .turn _ here .stop
  | stoppingPublisher number control =>
    rw [here] at steps
    exact .of_carryOn .stoppingPublisher here (fun _ => ⟨[], hsilent _⟩) steps
  | stoppingConsumer number control =>
    rw [here] at steps
    exact .of_carryOn .stoppingConsumer here (fun _ => ⟨[], hsilent _⟩) steps
  | report =>
    rw [here] at steps
    cases steps
    exact .turn _ here .dismiss
  | dismissingPublisher number control =>
    rw [here] at steps
    exact .of_carryOn .dismissingPublisher here (fun _ => ⟨[], hsilent _⟩) steps
  | dismissingConsumer number control =>
    rw [here] at steps
    exact .of_carryOn .dismissingConsumer here (fun _ => ⟨[], hsilent _⟩) steps
  | deleteGroup =>
    rw [here] at steps
    cases steps
    exact .ask _ here .deleteGroup
  | deleteDestination =>
    rw [here] at steps
    cases steps
    exact .ask _ here .deleteDestination
  | shutDown =>
    rw [here] at steps
    cases steps
    have hask := Deed.ask [] here .shutDown
    rwa [say_nil] at hask
  | finished code =>
    rw [here] at steps
    cases steps

/-- Whatever the conductor has counted, it goes on to say something or to look whether there was
an interrupt. -/
theorem judge_eq (run : Conductor β) (sum : Nat) :
    ∃ complete point, run.judge sum = { run with complete, point } ∧
      (point = .announce ∨ point = .lookInterrupt) := by
  rw [judge]
  split
  · exact ⟨true, .announce, rfl, .inl rfl⟩
  · exact ⟨run.complete, .lookInterrupt, rfl, .inr rfl⟩

/-- What holds in the beginning and is kept by whatever a worker or the conductor does holds in
every state reached, if what the conductor has counted makes no difference. -/
theorem Reaches.deed_induction {P : Diary → Conductor Hub → Prop} {start run : Conductor Hub}
    {diary : Diary} {glance : Glance} (begins : P [] start)
    (works : ∀ {diary : Diary} {glance : Glance} {run : Conductor Hub} {number : Nat}
      {crew : Crew Hub}, start.Reaches diary glance run → P diary run →
      run.crew.step number = some crew →
      P (diary ++ Diary.entries number (run.crew.asked number)) { run with crew })
    (deeds : ∀ {diary : Diary} {glance : Glance} {run after : Conductor Hub},
      start.Reaches diary glance run → P diary run → run.Deed after → P diary after)
    (judges : ∀ {diary : Diary} {run : Conductor Hub} (complete : Bool) (point : Point),
      run.point = .lookSeen → point = .announce ∨ point = .lookInterrupt → P diary run →
      P diary { run with complete, point })
    (reaches : start.Reaches diary glance run) : P diary run := by
  induction reaches with
  | start => exact begins
  | work before number steps ih =>
    obtain ⟨crew, hcrew, rfl⟩ := Option.map_eq_some_iff.1 steps
    exact works before ih hcrew
  | conduct before moment elsewhere steps ih => exact deeds before ih (.of_step elsewhere steps)
  | look before here more ih => exact ih
  | @judge diary glance run before here all ih =>
    obtain ⟨complete, point, hjudge, hpoint⟩ := run.judge_eq glance.sum
    rw [hjudge]
    exact judges complete point here hpoint ih

end Conductor

/-! ## Workers -/

/-- An engine asks, or rests. -/
inductive Engine.Goes (name : String) (engine : Engine) : List Exchange → Engine → Prop where
  | rest : Goes name engine [] engine
  | ask {query : Query} {next : query.Reply → Engine}
      (asks : engine.request name = .ask query next) (reply : query.Reply) :
    Goes name engine [⟨query, reply⟩] (next reply)

theorem Engine.Course.goes {name : String} {first engine after : Engine}
    {exchanges more : List Exchange} (course : Course name first exchanges engine)
    (goes : engine.Goes name more after) : Course name first (exchanges ++ more) after := by
  cases goes with
  | rest => rwa [List.append_nil]
  | ask asks reply => exact course.ask asks reply

/-- Whether a worker has no thread, or none any more. -/
def Worker.IsGone (worker : Worker) : Prop :=
  worker.life.phase = .absent ∨ worker.life.phase = .joined

namespace Crew

/-- A worker takes a step, and no other. -/
structure Moves (crew after : Crew Hub) (number : Nat) (worker other : Worker) : Prop where
  found : crew.workers[number]? = some worker
  workers : after.workers = crew.workers.set number other
  /-- It has a thread. -/
  present : ¬ worker.IsGone
  name : other.life.name = worker.life.name
  /-- What it asks its engine asks. -/
  goes : worker.engine.Goes worker.life.name ((crew.asked number).map Occasion.exchange)
    other.engine

theorem exists_of_step {crew after : Crew Hub} {number : Nat}
    (steps : crew.step number = some after) :
    ∃ worker other, crew.Moves after number worker other := by
  rw [Crew.step] at steps
  cases hworker : crew.workers[number]? with
  | none =>
    rw [hworker] at steps
    cases steps
  | some worker =>
    rw [hworker] at steps
    obtain ⟨⟨other, shared⟩, hstep, rfl⟩ := Option.map_eq_some_iff.1 steps
    rw [Worker.step] at hstep
    by_cases hworking : worker.life.phase = .working
    · have hpresent : ¬ worker.IsGone := by
        rw [Worker.IsGone, hworking]
        simp
      rw [if_pos hworking] at hstep
      cases hrequest : worker.engine.request worker.life.name with
      | finish outcome =>
        rw [hrequest] at hstep
        obtain ⟨⟨life, lines⟩, hadvance, heq⟩ := Option.map_eq_some_iff.1 hstep
        cases heq
        have hasked : crew.asked number = [] := by
          rw [asked, hworker]
          dsimp only
          rw [if_pos hworking, hrequest]
        refine ⟨worker, _, hworker, rfl, hpresent, Lifecycle.name_of_advance hadvance, ?_⟩
        rw [hasked]
        exact .rest
      | ask query next =>
        rw [hrequest] at hstep
        cases hstep
        have hasked : crew.asked number = [⟨crew.shared.client, ⟨query,
            (crew.shared.answer worker.life.stopRequested query).reply⟩,
            (crew.shared.answer worker.life.stopRequested query).client.client⟩] := by
          rw [asked, hworker]
          dsimp only
          rw [if_pos hworking, hrequest]
        refine ⟨worker, _, hworker, rfl, hpresent, ?_, ?_⟩
        · rw [stops_answer]
          rfl
        · rw [hasked]
          exact .ask hrequest _
    · rw [if_neg hworking] at hstep
      obtain ⟨⟨life, lines⟩, hadvance, heq⟩ := Option.map_eq_some_iff.1 hstep
      cases heq
      refine ⟨worker, _, hworker, rfl, ?_, Lifecycle.name_of_advance hadvance, ?_⟩
      · rintro (habsent | hjoined)
        · rw [Lifecycle.advance, habsent] at hadvance
          cases hadvance
        · rw [Lifecycle.advance, hjoined] at hadvance
          cases hadvance
      · have hasked : crew.asked number = [] := by
          rw [asked, hworker]
          exact if_neg hworking
        rw [hasked]
        exact .rest

/-- A control takes a step on a worker, and on no other. -/
theorem exists_of_control {crew after : Crew Hub} {number : Nat} {timeUp : Bool}
    {control next : Lifecycle.Control}
    (steps : crew.control number timeUp control = some (next, after)) :
    ∃ worker life lines, crew.workers[number]? = some worker ∧
      after.workers = crew.workers.set number { worker with life := life } ∧
      control.step timeUp worker.life = some (next, life, lines) := by
  rw [Crew.control] at steps
  cases hworker : crew.workers[number]? with
  | none =>
    rw [hworker] at steps
    cases steps
  | some worker =>
    rw [hworker] at steps
    obtain ⟨⟨onward, life, lines⟩, hstep, heq⟩ := Option.map_eq_some_iff.1 steps
    cases heq
    exact ⟨worker, life, lines, rfl, rfl, hstep⟩

end Crew

namespace Plan

variable (plan : Plan)

theorem length_workers : plan.workers.length = plan.consumers.toNat + plan.publishers.toNat := by
  rw [workers, List.length_append, List.length_map, List.length_map, List.length_range,
    List.length_range]

/-- A worker of a plan is one of its consumers or one of its publishers. -/
theorem worker_cases {number : Nat} {worker : Worker}
    (found : plan.workers[number]? = some worker) :
    (number < plan.consumers.toNat ∧ worker = plan.consumer number) ∨
      ∃ index < plan.publishers.toNat,
        number = plan.consumers.toNat + index ∧ worker = plan.publisher index := by
  rw [workers] at found
  rcases Nat.lt_or_ge number plan.consumers.toNat with hconsumer | hpublisher
  · rw [List.getElem?_append_left (by simp [hconsumer]), List.getElem?_map,
      List.getElem?_range hconsumer] at found
    cases found
    exact .inl ⟨hconsumer, rfl⟩
  · obtain ⟨index, rfl⟩ := Nat.exists_eq_add_of_le hpublisher
    rw [List.getElem?_append_right (by simp), List.length_map, List.length_range,
      Nat.add_sub_cancel_left, List.getElem?_map] at found
    obtain ⟨other, hother, rfl⟩ := Option.map_eq_some_iff.1 found
    obtain ⟨hlt, hsame⟩ := List.getElem?_eq_some_iff.1 hother
    rw [List.length_range] at hlt
    rw [List.getElem_range] at hsame
    subst hsame
    exact .inr ⟨index, hlt, rfl, rfl⟩

end Plan
end BrokerLoad
