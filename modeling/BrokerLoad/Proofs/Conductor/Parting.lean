import BrokerLoad.Proofs.Conductor.Deeds

/-!
# Nobody works on what is taken down

The conductor takes the group and the destination down when it has let every worker go, and it
has let a worker go when it has joined the worker's thread.  `Point.Leaves` says which workers
are gone at a point: before a worker is started all are, and while they are let go one after
the other those are that come before.  `Clears` is the invariant, that they really are.

A worker that is gone takes no steps, and only `spawn` brings it back; so nothing is asked any
more when everybody is gone (`Clears.not_moves`).
-/

namespace BrokerLoad

namespace Lifecycle.Control

/-- The steps of letting a worker go. -/
inductive IsDismissal : Control → Prop where
  | dismiss : IsDismissal .dismiss
  | lock : IsDismissal .lockToJoin
  | join : IsDismissal .join
  | unlock : IsDismissal .unlockJoin
  | answered (answer : Answer) : IsDismissal (.returned answer)

/-- Whether the thread has been joined. -/
@[simp] def hasJoined : Control → Bool
  | .unlockJoin => true
  | .returned _ => true
  | _ => false

/-- Letting a worker go goes on with letting it go. -/
theorem IsDismissal.of_step {control next : Control} {timeUp : Bool} {life after : Lifecycle}
    {lines : List LogLine} (dismisses : control.IsDismissal)
    (steps : control.step timeUp life = some (next, after, lines)) : next.IsDismissal := by
  cases dismisses with
  | dismiss =>
    cases steps
    exact .lock
  | lock =>
    simp only [step] at steps
    split at steps <;> cases steps
    exact .join
  | join =>
    simp only [step] at steps
    split at steps <;> cases steps
    all_goals exact .unlock
  | unlock =>
    cases steps
    exact .answered .nothing
  | answered answer => cases steps

/-- A thread that is gone stays gone, and it is gone when it has been joined. -/
theorem IsDismissal.gone_of_step {control next : Control} {timeUp : Bool}
    {life after : Lifecycle} {lines : List LogLine} (dismisses : control.IsDismissal)
    (steps : control.step timeUp life = some (next, after, lines))
    (before : control.hasJoined = true → life.phase = .absent ∨ life.phase = .joined)
    (gone : (life.phase = .absent ∨ life.phase = .joined) ∨ next.hasJoined = true) :
    after.phase = .absent ∨ after.phase = .joined := by
  cases dismisses with
  | dismiss =>
    cases steps
    simpa using gone
  | lock =>
    simp only [step] at steps
    split at steps <;> cases steps
    simpa using gone
  | join =>
    simp only [step] at steps
    split at steps <;> cases steps
    · exact .inl ‹_›
    · exact .inr ‹_›
    · exact .inr rfl
  | unlock =>
    cases steps
    exact before rfl
  | answered answer => cases steps

end Lifecycle.Control

namespace Conductor

namespace Point

/-- Whether the worker of a number is gone at a point, of a run with so many consumers. -/
@[simp] def Leaves (consumers number : Nat) : Point → Prop
  | .createDestination => True
  | .createGroup => True
  | .dismissingPublisher current control =>
    consumers ≤ number ∧ number < current ∨ number = current ∧ control.hasJoined = true
  | .dismissingConsumer current control =>
    consumers ≤ number ∨ number < current ∨ number = current ∧ control.hasJoined = true
  | .deleteGroup => True
  | .deleteDestination => True
  | .shutDown => True
  | .finished _ => True
  | _ => False

/-- Whether a worker that is being let go is only let go. -/
@[simp] def Dismisses : Point → Prop
  | .dismissingPublisher _ control => control.IsDismissal
  | .dismissingConsumer _ control => control.IsDismissal
  | _ => True

end Point

/-! ## From worker to worker -/

variable {run after : Conductor Hub} {number : Nat}

theorem leaves_dismissConsumersFrom {other : Nat}
    (leaves : (run.dismissConsumersFrom number).Leaves run.consumerCount other) :
    run.consumerCount ≤ other ∨ other < number := by
  revert leaves
  rw [dismissConsumersFrom]
  refine each_cases (P := fun point => point.Leaves run.consumerCount other → _) ?_ ?_
  · rintro - (hpublisher | hearlier | ⟨-, hjoined⟩)
    · exact .inl hpublisher
    · exact .inr hearlier
    · cases hjoined
  · intro hall _
    omega

theorem leaves_dismissPublishersFrom {other : Nat} (hother : other < run.workerCount)
    (leaves : (run.dismissPublishersFrom number).Leaves run.consumerCount other) :
    run.consumerCount ≤ other ∧ other < number := by
  revert leaves
  rw [dismissPublishersFrom]
  refine each_cases (P := fun point => point.Leaves run.consumerCount other → _) ?_ ?_
  · rintro - (hearlier | ⟨-, hjoined⟩)
    · exact hearlier
    · cases hjoined
  · intro hall leaves
    rcases leaves_dismissConsumersFrom leaves with hpublisher | hnone
    · exact ⟨hpublisher, Nat.lt_of_lt_of_le hother hall⟩
    · cases hnone

/-- Nobody is gone where workers are stopped, and after that neither. -/
theorem not_leaves_stopConsumersFrom (number other : Nat) :
    ¬ (run.stopConsumersFrom number).Leaves run.consumerCount other := by
  rw [stopConsumersFrom]
  exact each_cases (P := fun point => ¬ point.Leaves run.consumerCount other) (fun _ => id)
    fun _ => id

theorem not_leaves_stopPublishersFrom (number other : Nat) :
    ¬ (run.stopPublishersFrom number).Leaves run.consumerCount other := by
  rw [stopPublishersFrom]
  exact each_cases (P := fun point => ¬ point.Leaves run.consumerCount other) (fun _ => id)
    fun _ => not_leaves_stopConsumersFrom 0 other

theorem not_leaves_startFrom (number other : Nat) :
    ¬ (run.startFrom number).Leaves run.consumerCount other := by
  rw [startFrom]
  exact each_cases (P := fun point => ¬ point.Leaves run.consumerCount other) (fun _ => id)
    fun _ => id

/-- Who is gone where the conductor turns to was gone before. -/
theorem Leads.leaves {here there : Point} (leads : run.Leads here there)
    (hlt : number < run.workerCount) (leaves : there.Leaves run.consumerCount number) :
    here.Leaves run.consumerCount number := by
  cases leads with
  | stop => exact absurd leaves (not_leaves_stopPublishersFrom _ _)
  | dismiss =>
    obtain ⟨hpublisher, hearlier⟩ := leaves_dismissPublishersFrom hlt leaves
    omega
  | next task current answer =>
    cases task with
    | starting => exact absurd leaves (not_leaves_startFrom _ _)
    | stoppingPublisher => exact absurd leaves (not_leaves_stopPublishersFrom _ _)
    | stoppingConsumer => exact absurd leaves (not_leaves_stopConsumersFrom _ _)
    | dismissingPublisher =>
      obtain ⟨hpublisher, hearlier⟩ := leaves_dismissPublishersFrom hlt leaves
      rcases Nat.lt_succ_iff_lt_or_eq.1 hearlier with hbefore | hsame
      · exact .inl ⟨hpublisher, hbefore⟩
      · exact .inr ⟨hsame, rfl⟩
    | dismissingConsumer =>
      rcases leaves_dismissConsumersFrom leaves with hpublisher | hearlier
      · exact .inl hpublisher
      · rcases Nat.lt_succ_iff_lt_or_eq.1 hearlier with hbefore | hsame
        · exact .inr (.inl hbefore)
        · exact .inr (.inr ⟨hsame, rfl⟩)
  | _ => exact leaves.elim

theorem dismisses_onFrom (task : Task) (number : Nat) : (task.onFrom run number).Dismisses := by
  refine onFrom_cases (fun task number => ?_) trivial trivial trivial task number
  cases task with
  | dismissingPublisher => exact .dismiss
  | dismissingConsumer => exact .dismiss
  | _ => trivial

/-- A worker that the conductor turns to is let go from the beginning. -/
theorem Leads.dismisses {here there : Point} (leads : run.Leads here there) : there.Dismisses := by
  cases leads with
  | stop => exact dismisses_onFrom .stoppingPublisher _
  | dismiss => exact dismisses_onFrom .dismissingPublisher _
  | next task current answer => exact dismisses_onFrom task _
  | _ => trivial

/-! ## The invariant -/

/-- The workers that a point leaves are gone. -/
structure Clears (run : Conductor Hub) : Prop where
  /-- The workers are those of the plan. -/
  count : run.crew.workers.length = run.workerCount
  dismisses : run.point.Dismisses
  gone : ∀ number worker, run.crew.workers[number]? = some worker →
    run.point.Leaves run.consumerCount number → worker.IsGone

namespace Clears

theorem begin (plan : Plan) (hub : Hub) : (begin plan hub).Clears where
  count := plan.length_workers
  dismisses := trivial
  gone number worker found _ := by
    rcases plan.worker_cases found with ⟨-, rfl⟩ | ⟨index, -, -, rfl⟩ <;> exact .inl rfl

/-- A worker that is gone takes no step. -/
theorem not_moves (clears : run.Clears) {crew : Crew Hub} {worker other : Worker}
    (moves : run.crew.Moves crew number worker other)
    (leaves : run.point.Leaves run.consumerCount number) : False :=
  moves.present (clears.gone number worker moves.found leaves)

/-- A step of a worker. -/
theorem work (clears : run.Clears) {crew : Crew Hub} {worker other : Worker}
    (moves : run.crew.Moves crew number worker other) : Clears { run with crew } where
  count := by
    show crew.workers.length = _
    rw [moves.workers, List.length_set]
    exact clears.count
  dismisses := clears.dismisses
  gone current someone found leaves := by
    by_cases hsame : number = current
    · exact (clears.not_moves moves (hsame ▸ leaves)).elim
    · have hfound : crew.workers[current]? = some someone := found
      rw [moves.workers, List.getElem?_set_ne hsame] at hfound
      exact clears.gone current someone hfound leaves

/-- The conductor turns to something else. -/
theorem turn (clears : run.Clears) {point : Point} (workers : after.crew.workers = run.crew.workers)
    (plan : after.plan = run.plan) (dismisses : point.Dismisses)
    (leaves : ∀ number < run.workerCount, point.Leaves run.consumerCount number →
      run.point.Leaves run.consumerCount number) : (after.goto point).Clears where
  count := by
    show after.crew.workers.length = (after.goto point).workerCount
    rw [workers, clears.count, workerCount, workerCount, consumerCount, consumerCount, goto, plan]
  dismisses := dismisses
  gone number worker found hleaves := by
    have hfound : after.crew.workers[number]? = some worker := found
    have hcount : (after.goto point).consumerCount = run.consumerCount := by
      rw [consumerCount, consumerCount, goto, plan]
    rw [workers] at hfound
    rw [hcount] at hleaves
    have hlt := (List.getElem?_eq_some_iff.1 hfound).1
    rw [clears.count] at hlt
    exact clears.gone number worker hfound (leaves number hlt hleaves)

/-- The conductor takes a step of a control. -/
theorem control (clears : run.Clears) {task : Task} {control next : Lifecycle.Control}
    {timeUp : Bool} {crew : Crew Hub} (found : run.point = task.point number control)
    (steps : run.crew.control number timeUp control = some (next, crew)) :
    Clears ({ run with crew }.goto (task.point number next)) := by
  obtain ⟨worker, life, lines, hworker, hworkers, hstep⟩ := Crew.exists_of_control steps
  have hdismisses := clears.dismisses
  have hgone := clears.gone number worker hworker
  rw [found] at hdismisses hgone
  refine ⟨?_, ?_, fun current someone hsomeone hleaves => ?_⟩
  · show crew.workers.length = _
    rw [hworkers, List.length_set]
    exact clears.count
  · show (task.point number next).Dismisses
    cases task with
    | dismissingPublisher => exact hdismisses.of_step hstep
    | dismissingConsumer => exact hdismisses.of_step hstep
    | _ => trivial
  have hsomeone : crew.workers[current]? = some someone := hsomeone
  have hleaves : (task.point number next).Leaves run.consumerCount current := hleaves
  rw [hworkers] at hsomeone
  by_cases hsame : number = current
  · subst hsame
    rw [List.getElem?_set_self (List.getElem?_eq_some_iff.1 hworker).1] at hsomeone
    cases hsomeone
    cases task with
    | dismissingPublisher =>
      refine hdismisses.gone_of_step hstep (fun hjoined => hgone (.inr ⟨rfl, hjoined⟩)) ?_
      rcases hleaves with ⟨-, hnever⟩ | ⟨-, hjoined⟩
      · exact absurd hnever (Nat.lt_irrefl _)
      · exact .inr hjoined
    | dismissingConsumer =>
      refine hdismisses.gone_of_step hstep (fun hjoined => hgone (.inr (.inr ⟨rfl, hjoined⟩))) ?_
      rcases hleaves with hpublisher | hnever | ⟨-, hjoined⟩
      · exact .inl (hgone (.inl hpublisher))
      · exact absurd hnever (Nat.lt_irrefl _)
      · exact .inr hjoined
    | _ => exact hleaves.elim
  · rw [List.getElem?_set_ne hsame] at hsomeone
    refine clears.gone current someone hsomeone ?_
    rw [found]
    cases task with
    | dismissingPublisher => exact hleaves.imp_right fun h => absurd h.1.symm hsame
    | dismissingConsumer =>
      exact hleaves.imp_right fun h => h.imp_right fun h => absurd h.1.symm hsame
    | _ => exact hleaves

/-- What the conductor does leaves the workers gone that it has let go. -/
theorem deed (clears : run.Clears) (deed : run.Deed after) : after.Clears := by
  cases deed with
  | turn lines found leads =>
    exact clears.turn rfl rfl leads.dismisses fun number hlt leaves =>
      found ▸ leads.leaves hlt leaves
  | control found steps => exact clears.control found steps
  | ask lines found asks =>
    refine clears.turn rfl rfl ?_ fun number hlt leaves => ?_
    · cases asks with
      | createDestination =>
        dsimp only
        split <;> trivial
      | createGroup =>
        dsimp only
        split
        · exact dismisses_onFrom .starting 0
        · trivial
      | _ => trivial
    · rw [found]
      cases asks <;> trivial

theorem of_reaches {plan : Plan} {hub : Hub} {diary : Diary} {glance : Glance}
    (reaches : (Conductor.begin plan hub).Reaches diary glance run) : run.Clears := by
  refine reaches.deed_induction (P := fun _ run => run.Clears) (begin plan hub)
    (fun _ clears steps => ?_) (fun _ clears deed => clears.deed deed)
    fun {diary run} complete point _ hpoint clears => ?_
  · obtain ⟨worker, other, moves⟩ := Crew.exists_of_step steps
    exact clears.work moves
  · refine @turn run { run with complete } clears point rfl rfl ?_ fun number _ leaves => ?_
    · rcases hpoint with rfl | rfl <;> trivial
    · rcases hpoint with rfl | rfl <;> exact leaves.elim

end Clears

end Conductor
end BrokerLoad
