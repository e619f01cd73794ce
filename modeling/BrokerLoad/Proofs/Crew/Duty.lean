import BrokerLoad.Proofs.Crew.Alone
import Mathlib.Logic.Relation

/-!
# Workers that are interrupted

A client may bring stop requests with its answers, and then what a worker does next depends on
them: they change its life and write lines.  A *duty* is a machine at work together with the life
of its worker and with what it shares, and a turn of it is a query with its answer and with the
stop requests that came up meanwhile.

A machine in the use of its handle takes the turns of its loop (`Duty.Turns.inUse`), and a worker
takes the turns of its machine (`Duty.Reaches.employ`).  What a stop request does to a worker in
its work loop is the same whenever it comes (`Lifecycle.OnDuty.interrupt_eq`), so that whatever
happens, the worker stays in its loop until its machine has finished.

Two machines that can always be brought nearer to their ends side by side come to their ends side
by side (`Duty.exists_meeting`).
-/

namespace BrokerLoad

/-! ## Stop requests in the work loop -/

/-- A worker in its work loop, whether it has been asked to stop or not. -/
structure Lifecycle.OnDuty (life : Lifecycle) : Prop where
  working : life.phase = .working
  begun : life.state ≠ .created
  going : life.isDone = false
  stoppable : life.quit.valid = true
  closable : life.done.valid = true

namespace Lifecycle.OnDuty

variable {life : Lifecycle}

/-- All that a stop request does to a worker in its work loop: it is asked to stop.  A request
that comes from its own thread reports that it was not waited for. -/
theorem interrupt_eq (onDuty : life.OnDuty) (timeUp : Bool) :
    life.interrupt timeUp =
      ({ life with
          state := if life.state = .running then .stopping else life.state
          quit := life.quit.notify.2 },
        if timeUp then [.err (life.name ++ ": shutdown timed out")] else []) := by
  have hwait : life.done.wait = false := by
    have hgoing : life.done.isSet = false := onDuty.going
    rw [Latch.wait, hgoing, Bool.and_false]
  unfold interrupt Control.stop
  by_cases hrunning : life.state = .running <;> cases timeUp <;>
    simp [Control.stepBound, Control.drive, Control.step, onDuty.begun, hrunning, hwait]

/-- It stays in its work loop. -/
theorem interrupt (onDuty : life.OnDuty) (timeUp : Bool) : (life.interrupt timeUp).1.OnDuty := by
  rw [onDuty.interrupt_eq]
  refine ⟨onDuty.working, ?_, onDuty.going, ?_, onDuty.closable⟩
  · show (if life.state = .running then State.stopping else life.state) ≠ .created
    split
    · decide
    · exact onDuty.begun
  · show life.quit.notify.2.valid = true
    rw [Latch.notify, if_pos onDuty.stoppable]
    exact onDuty.stoppable

/-- It knows that it was asked. -/
theorem stopRequested_interrupt (onDuty : life.OnDuty) (timeUp : Bool) :
    (life.interrupt timeUp).1.stopRequested = true := by
  rw [onDuty.interrupt_eq]
  exact Latch.isSet_notify onDuty.stoppable

theorem name_interrupt (onDuty : life.OnDuty) (timeUp : Bool) :
    (life.interrupt timeUp).1.name = life.name := by
  rw [onDuty.interrupt_eq]

/-- However many stop requests come up, a worker stays in its work loop. -/
theorem interrupts (onDuty : life.OnDuty) (stops : List Interruption) :
    (Worker.interrupts life stops).1.OnDuty ∧
      (Worker.interrupts life stops).1.name = life.name := by
  induction stops generalizing life with
  | nil => exact ⟨onDuty, rfl⟩
  | cons stop rest ih =>
    obtain ⟨hrest, hname⟩ := ih (onDuty.interrupt (stop = .inside))
    exact ⟨hrest, hname.trans (onDuty.name_interrupt _)⟩

end Lifecycle.OnDuty

/-- A worker of a name that has just entered its work loop. -/
theorem Worker.onDuty_workingLife (name : String) : (workingLife name).OnDuty :=
  ⟨rfl, by simp [workingLife], rfl, rfl, rfl⟩

/-! ## Turns -/

/-- A machine at work, with the life of its worker and what it shares. -/
structure Duty (σ β : Type) where
  life : Lifecycle
  state : Paced σ
  shared : Shared β

namespace Duty

variable {α α' σ τ β γ : Type} [Client β] [Client γ]

/-- The duty after a query was answered, with the stop requests that came up meanwhile. -/
def answered (duty : Duty σ β) (query : Query) (next : query.Reply → Paced τ) : Duty τ β :=
  let served := duty.shared.answer duty.life.stopRequested query
  let interrupted := Worker.interrupts duty.life served.stops
  ⟨interrupted.1, next served.reply, served.client.say interrupted.2⟩

/-- One turn: the machine asks and goes on with the reply. -/
def Turns (body : σ → Request α (Paced σ)) (duty after : Duty σ β) : Prop :=
  ∃ query next, duty.state.request body = .ask query next ∧ after = duty.answered query next

/-- Any number of turns. -/
abbrev Reaches (body : σ → Request α (Paced σ)) : Duty σ β → Duty σ β → Prop :=
  Relation.ReflTransGen (Turns body)

/-- A machine that has finished. -/
def Finished (body : σ → Request α (Paced σ)) (outcome : Except Fault α) (duty : Duty σ β) :
    Prop :=
  duty.state.request body = .finish outcome

variable {body : σ → Request α (Paced σ)} {duty after : Duty σ β}

/-- The turn of a machine that asks. -/
theorem turns_of_asks {query : Query} {next : query.Reply → Paced σ}
    (asks : duty.state.request body = .ask query next) :
    Turns body duty (duty.answered query next) :=
  ⟨query, next, asks, rfl⟩

/-- A turn leaves the worker in its work loop. -/
theorem Turns.onDuty (turns : Turns body duty after) (onDuty : duty.life.OnDuty) :
    after.life.OnDuty ∧ after.life.name = duty.life.name := by
  obtain ⟨query, next, -, rfl⟩ := turns
  exact onDuty.interrupts _

/-- So do any number of turns. -/
theorem Reaches.onDuty (reaches : Reaches body duty after) (onDuty : duty.life.OnDuty) :
    after.life.OnDuty ∧ after.life.name = duty.life.name := by
  induction reaches with
  | refl => exact ⟨onDuty, rfl⟩
  | tail _ turns ih =>
    obtain ⟨hkept, hname⟩ := turns.onDuty ih.1
    exact ⟨hkept, hname.trans ih.2⟩

/-- Two machines of which each pair that is related in some way can be brought to a meeting, or
else to a pair that is so related and nearer to the end, can be brought to a meeting. -/
theorem exists_meeting {body' : τ → Request α' (Paced τ)}
    {Related Meeting : Duty σ β → Duty τ γ → Prop} {μ : Type} [WellFoundedRelation μ]
    (left : Duty σ β → μ)
    (advance : ∀ {here there}, Related here there → ∃ here' there',
      Reaches body here here' ∧ Reaches body' there there' ∧
        (Meeting here' there' ∨
          (Related here' there' ∧ WellFoundedRelation.rel (left here') (left here))))
    {here : Duty σ β} {there : Duty τ γ} (related : Related here there) :
    ∃ here' there', Reaches body here here' ∧ Reaches body' there there' ∧
      Meeting here' there' := by
  suffices hmeet : ∀ (bound : μ) here there, left here = bound → Related here there →
      ∃ here' there', Reaches body here here' ∧ Reaches body' there there' ∧
        Meeting here' there' from hmeet _ here there rfl related
  intro bound
  induction bound using (WellFoundedRelation.wf (α := μ)).induction with
  | h bound ih =>
    rintro here there rfl related
    obtain ⟨here', there', hhere, hthere, hmeeting | ⟨hrelated, hnearer⟩⟩ := advance related
    · exact ⟨here', there', hhere, hthere, hmeeting⟩
    · obtain ⟨last, last', hlast, hlast', hmeeting⟩ := ih _ hnearer here' there' rfl hrelated
      exact ⟨last, last', hhere.trans hlast, hthere.trans hlast', hmeeting⟩

/-! ## The turns of a loop are those of its engine -/

section Handled

variable {name : String} {role : Role} {loopBody : Handle → σ → Request Ending (Paced σ)}
  {handle : Handle}

/-- An engine whose loop is at work. -/
def inUse (handle : Handle) (duty : Duty σ β) : Duty (Handling σ) β :=
  ⟨duty.life, Handling.inUse handle duty.state, duty.shared⟩

/-- While its handle is in use an engine takes the turns of its loop. -/
theorem Turns.inUse (turns : Turns (loopBody handle) duty after) :
    Turns (Handling.request name role loopBody) (duty.inUse handle) (after.inUse handle) := by
  obtain ⟨query, next, asks, rfl⟩ := turns
  exact ⟨query, _, Handling.request_working asks, rfl⟩

theorem Reaches.inUse (reaches : Reaches (loopBody handle) duty after) :
    Reaches (Handling.request name role loopBody) (duty.inUse handle) (after.inUse handle) :=
  reaches.lift (Duty.inUse handle) fun _ _ turns => turns.inUse

/-- A worker with its engine. -/
def employ (wrap : Paced (Handling σ) → Engine) (duty : Duty (Handling σ) β) :
    Worker × Shared β :=
  (⟨duty.life, wrap duty.state⟩, duty.shared)

/-- A worker in its work loop takes the turns of its engine. -/
theorem Turns.employ (wrap : Paced (Handling σ) → Engine) {duty after : Duty (Handling σ) β}
    (wraps : ∀ state, (wrap state).request name =
      (state.request (Handling.request name role loopBody)).map wrap)
    (onDuty : duty.life.OnDuty) (named : duty.life.name = name)
    (turns : Turns (Handling.request name role loopBody) duty after) :
    Worker.Steps (duty.employ wrap)
      ((duty.employ wrap).1.asks (duty.employ wrap).2) (after.employ wrap) := by
  obtain ⟨query, next, asks, rfl⟩ := turns
  have hasks : (wrap duty.state).request duty.life.name =
      .ask query fun reply => wrap (next reply) := by
    rw [named, wraps, asks]
    rfl
  refine ⟨?_, rfl⟩
  show Worker.step ⟨duty.life, wrap duty.state⟩ duty.shared = _
  rw [Worker.step, if_pos onDuty.working, hasks]
  rfl

/-- So a worker does what its engine does. -/
theorem Reaches.employ (wrap : Paced (Handling σ) → Engine) {duty after : Duty (Handling σ) β}
    (wraps : ∀ state, (wrap state).request name =
      (state.request (Handling.request name role loopBody)).map wrap)
    (onDuty : duty.life.OnDuty) (named : duty.life.name = name)
    (reaches : Reaches (Handling.request name role loopBody) duty after) :
    ∃ trail, Worker.Reaches (duty.employ wrap) trail (after.employ wrap) := by
  induction reaches with
  | refl => exact ⟨[], .refl _⟩
  | tail earlier turns ih =>
    obtain ⟨trail, htrail⟩ := ih
    obtain ⟨hkept, hname⟩ := Reaches.onDuty earlier onDuty
    exact ⟨_, htrail.trans (.single (turns.employ wrap wraps hkept (hname.trans named)))⟩

end Handled
end Duty

end BrokerLoad
