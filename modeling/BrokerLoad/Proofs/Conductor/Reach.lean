import BrokerLoad.Conductor.Schedule
import BrokerLoad.Proofs.Crew.Reach
import BrokerLoad.Proofs.Ledger.Counting

/-!
# The states that a conducted run can reach

`Conductor.Reaches` are the runs on a hub: the conductor may take the next step, or any of the
workers, and the world may show the conductor any time and an interrupt at any moment.  What
the workers asked on the way is kept in a diary, with the number of the worker that asked.

There is one point where a run goes into more detail than `Conductor.step`.  To see whether all
messages have been consumed the conductor adds up the sizes of the shards of the seen ids, one
shard after the other, and the workers may go on in between.  A `Glance` is how far it has come
with that, and `judge` what it does when it has looked at all shards.  That the conductor looks
at all shards at once, as it does in `step`, is one of these runs (`Reaches.conducted`), and so
a whole run on the schedule is one of them, too (`reaches_conduct`).  A number that is only
told, in a line of the log, is told as `step` tells it.
-/

namespace BrokerLoad

/-- What the workers of a crew have asked, in order, each time with the number of the worker. -/
abbrev Diary : Type := List (Nat × Occasion)

namespace Diary

variable (diary more : Diary)

/-- What was asked, whoever asked it. -/
def past : Past := diary.map Prod.snd

/-- What the worker of a number has asked. -/
def course (number : Nat) : List Exchange :=
  (diary.filter fun entry => entry.1 = number).map fun entry => entry.2.exchange

/-- The ids that the worker of a number was given. -/
def mintedBy (number : Nat) : List UInt64 := (diary.course number).filterMap Exchange.minted?

/-- Entries of the worker of a number. -/
def entries (number : Nat) (past : Past) : Diary := past.map fun occasion => (number, occasion)

@[simp] theorem past_append : past (diary ++ more) = diary.past ++ more.past := List.map_append

@[simp] theorem past_entries (number : Nat) (past : Past) : (entries number past).past = past := by
  rw [Diary.past, entries, List.map_map]
  exact List.map_id past

@[simp] theorem course_append (number : Nat) :
    course (diary ++ more) number = diary.course number ++ more.course number := by
  rw [course, List.filter_append, List.map_append, course, course]

theorem course_entries_self (number : Nat) (past : Past) :
    (entries number past).course number = past.map Occasion.exchange := by
  rw [course, entries, List.filter_eq_self.2 (by simp), List.map_map]
  rfl

theorem course_entries_of_ne {number other : Nat} (hne : other ≠ number) (past : Past) :
    (entries other past).course number = [] := by
  rw [course, entries, List.filter_eq_nil_iff.2 (by simp [hne]), List.map_nil]

end Diary

namespace Conductor

variable {β : Type}

/-- How far the conductor has come with counting the ids seen. -/
structure Glance where
  /-- How many shards it has looked at. -/
  shards : Nat := 0
  /-- How many ids there were in them. -/
  sum : Nat := 0

/-- What the conductor does when it has counted so many ids. -/
def judge (run : Conductor β) (sum : Nat) : Conductor β :=
  if run.plan.expected.toNat ≤ sum then { run with complete := true }.goto .announce
  else run.goto .lookInterrupt

/-- It does that when it counts them all at once. -/
theorem step_of_lookSeen [Client β] {run : Conductor β} (here : run.point = .lookSeen)
    (moment : Moment) : run.step moment = some (run.judge run.seenCount) := by
  rw [step, here, judge]
  dsimp only
  split <;> rfl

/-- The runs of a conductor and its crew, whoever takes the next step: what was asked since the
start, how far the conductor has come with counting, and the run reached. -/
inductive Reaches (start : Conductor Hub) : Diary → Glance → Conductor Hub → Prop where
  /-- Nothing has happened. -/
  | start : Reaches start [] {} start
  | work {diary : Diary} {glance : Glance} {run after : Conductor Hub}
      (before : Reaches start diary glance run) (number : Nat)
      (steps : run.stepWorker number = some after) :
      Reaches start (diary ++ Diary.entries number (run.crew.asked number)) glance after
  /-- The conductor takes a step, but does not count. -/
  | conduct {diary : Diary} {glance : Glance} {run after : Conductor Hub}
      (before : Reaches start diary glance run) (moment : Moment)
      (elsewhere : run.point ≠ .lookSeen) (steps : run.step moment = some after) :
      Reaches start diary {} after
  /-- It looks at one more shard. -/
  | look {diary : Diary} {glance : Glance} {run : Conductor Hub}
      (before : Reaches start diary glance run) (here : run.point = .lookSeen)
      (more : glance.shards < shardCount) :
      Reaches start diary ⟨glance.shards + 1,
        glance.sum + run.crew.shared.ledger.seen.shards[glance.shards].size⟩ run
  /-- It has looked at all of them. -/
  | judge {diary : Diary} {glance : Glance} {run : Conductor Hub}
      (before : Reaches start diary glance run) (here : run.point = .lookSeen)
      (all : glance.shards = shardCount) : Reaches start diary {} (run.judge glance.sum)

/-! ## The schedule -/

/-- The conductor stays where it is while the workers have their turns. -/
theorem point_turnsFrom [Client β] (run : Conductor β) (number count : Nat) :
    (turnsFrom number count run).point = run.point := by
  induction count generalizing run number with
  | zero => rfl
  | succ count ih => exact ih _ (number + 1)

/-- The run after the worker that is being attended to, if there is one, has had its time. -/
def waited (run : Conductor Hub) : Conductor Hub :=
  { run with crew :=
    match run.attended with
    | some number => run.crew.runWorker number patience
    | none => run.crew }

namespace Reaches

variable {start run after : Conductor Hub} {diary : Diary}

/-- The conductor looks at the first so many shards with nobody in between. -/
theorem looks (reaches : start.Reaches diary {} run) (here : run.point = .lookSeen)
    {count : Nat} (hcount : count ≤ shardCount) :
    start.Reaches diary ⟨count, run.crew.shared.ledger.seen.sizeBelow count⟩ run := by
  induction count with
  | zero => exact reaches
  | succ count ih =>
    rw [SeenIds.sizeBelow_succ _ hcount]
    exact (ih (Nat.le_of_succ_le hcount)).look here hcount

/-- The conductor takes a step, with nobody in between. -/
theorem conducted (reaches : start.Reaches diary {} run) (moment : Moment)
    (steps : run.step moment = some after) : start.Reaches diary {} after := by
  by_cases here : run.point = .lookSeen
  · rw [step_of_lookSeen here] at steps
    cases steps
    have hall := (reaches.looks here (Nat.le_refl _)).judge here rfl
    rwa [SeenIds.sizeBelow_shardCount] at hall
  · exact reaches.conduct moment here steps

/-- A worker takes a step. -/
theorem worked (reaches : start.Reaches diary {} run) (number : Nat) {crew : Crew Hub}
    (steps : run.crew.step number = some crew) :
    ∃ diary, start.Reaches diary {} { run with crew } := by
  refine ⟨_, reaches.work number ?_⟩
  rw [stepWorker, steps]
  rfl

/-- A worker has its turn. -/
theorem turned (reaches : start.Reaches diary {} run) (number bound : Nat) :
    ∃ diary, start.Reaches diary {} { run with crew := turn number bound run.crew } := by
  induction bound generalizing run diary with
  | zero => exact ⟨diary, reaches⟩
  | succ bound ih =>
    rw [turn]
    cases hstep : run.crew.step number with
    | none => exact ⟨diary, reaches⟩
    | some crew =>
      obtain ⟨diary, hworked⟩ := reaches.worked number hstep
      dsimp only
      split
      · exact ih hworked
      · exact ⟨diary, hworked⟩

/-- Workers have their turns. -/
theorem turnedFrom (reaches : start.Reaches diary {} run) (number count : Nat) :
    ∃ diary, start.Reaches diary {} (turnsFrom number count run) := by
  induction count generalizing run diary number with
  | zero => exact ⟨diary, reaches⟩
  | succ count ih =>
    obtain ⟨diary, hturned⟩ := reaches.turned number (run.strideOf number)
    exact ih hturned (number + 1)

/-- A worker takes its steps with nobody else in between. -/
theorem ranWorker (reaches : start.Reaches diary {} run) (number bound : Nat) :
    ∃ diary, start.Reaches diary {} { run with crew := run.crew.runWorker number bound } := by
  induction bound generalizing run diary with
  | zero => exact ⟨diary, reaches⟩
  | succ bound ih =>
    rw [Crew.runWorker]
    cases hstep : run.crew.step number with
    | none => exact ⟨diary, reaches⟩
    | some crew =>
      obtain ⟨diary, hworked⟩ := reaches.worked number hstep
      exact ih hworked

/-- Nothing else happens while the conductor waits. -/
theorem waited (reaches : start.Reaches diary {} run) :
    ∃ diary, start.Reaches diary {} run.waited := by
  rw [Conductor.waited]
  cases run.attended with
  | none => exact ⟨diary, reaches⟩
  | some number => exact reaches.ranWorker number patience

/-- The run goes on as its schedule has it. -/
theorem carried (reaches : start.Reaches diary {} run) (interrupted : Bool) (bound clock : Nat) :
    ∃ diary, start.Reaches diary {} (carry interrupted bound clock run) := by
  induction bound generalizing run diary clock with
  | zero => exact ⟨diary, reaches⟩
  | succ bound ih =>
    rw [carry]
    dsimp only
    split
    next => exact ⟨diary, reaches⟩
    next here =>
      obtain ⟨diary, hround⟩ := reaches.turnedFrom 0 run.workerCount
      refine ih (hround.conducted {} ?_) _
      rw [step, point_turnsFrom, here]
      rfl
    next =>
      cases hstep : run.step (run.momentAt interrupted clock) with
      | some after => exact ih (reaches.conducted _ hstep) clock
      | none =>
        dsimp only
        obtain ⟨diary, hwaited⟩ := reaches.waited
        split
        next after hafter => exact ih (hwaited.conducted _ hafter) clock
        next =>
          split
          next after hlate => exact ih (hwaited.conducted _ hlate) clock
          next => exact ⟨diary, hwaited⟩

end Reaches

/-- A run on the schedule is one of these runs. -/
theorem reaches_conduct (plan : Plan) (hub : Hub) (interrupted : Bool) :
    ∃ diary, (begin plan hub).Reaches diary {} (conduct plan hub interrupted) :=
  Reaches.start.carried interrupted (stepBound plan) 0

end Conductor
end BrokerLoad
