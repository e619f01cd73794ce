import BrokerLoad.Proofs.Consumer.Moves
import BrokerLoad.Proofs.Engine.Stopping

/-!
# Consumers honour stop requests

A consumer looks at the stop request before each delivery, and a pipelined one also while it
waits for a delivery.  So once a stop is requested it asks for one delivery more at most, and
takes in one at most: the one that it asks for, or the one that it has asked for, or the one
that it is taking in.

This does not depend on which kind of loop it is.  A delivery that is being taken in costs what is
still to be done about it (`Costs.handle`, `Costs.resume`), and a loop whose other moves are paid
for as well honours stop requests (`Reckons.honoursStop`).
-/

namespace BrokerLoad
namespace Consumer

/-! ## Intakes -/

namespace Intake

/-- How much work of each kind is still to be done about a delivery. -/
@[simp] def Stage.allowance : Stage → Work → Nat
  | .arrived, .note => 1
  | .noting _, .note => 1
  | .arrived, .ack => 1
  | .noting _, .ack => 1
  | .acking _, .ack => 1
  | _, _ => 0

/-- How many steps there are to the end of the intake. -/
@[simp] def Stage.steps : Stage → Nat
  | .arrived => 3
  | .noting _ => 2
  | .acking _ => 1
  | .over _ => 0

theorem Stage.allowance_le (stage : Stage) (work : Work) : stage.allowance work ≤ 1 := by
  cases stage <;> cases work <;> simp

theorem Stage.steps_le (stage : Stage) : stage.steps ≤ 3 := by
  cases stage <;> simp

/-- How a consumer ends that fails at an intake, if it is certain to. -/
def foregone? (intake : Intake) : Option Outcome :=
  match intake.stage with
  | .arrived =>
    if (Envelope.decode intake.delivery.payload).isNone then some (.ok .unexpectedError) else none
  | .over (.ok false) => some (.ok .unexpectedError)
  | .over (.error fault) => some (.error fault)
  | _ => none

variable {intake : Intake} {exchange : Exchange} {after : Paced Intake}

theorem Move.work (move : Intake.Move intake exchange after) (work : Work) :
    (exchange.does work).toNat + after.now.stage.allowance work ≤ intake.stage.allowance work := by
  cases move <;> cases work <;> simp_all [Exchange.does]

theorem Move.steps (move : Intake.Move intake exchange after) :
    1 + after.now.stage.steps ≤ intake.stage.steps := by
  cases move <;> simp_all

theorem Move.explains (move : Intake.Move intake exchange after) {outcome : Outcome}
    (certain : after.now.foregone? = some outcome) :
    intake.foregone? = some outcome ∨ exchange.Fails outcome := by
  cases move with
  | garble line here garbled =>
    cases certain
    exact Or.inl (by simp [foregone?, here, garbled])
  | reject id line here =>
    cases certain
    exact Or.inr (.disappointed rfl)
  | crash id fault here =>
    cases certain
    exact Or.inr (.fault fault rfl)
  | _ => simp [foregone?] at certain

/-- A delivery that has just come fails only if it is no envelope. -/
theorem fails_of_arrived {exchange : Exchange} {delivery : Delivery} {counts : Counts}
    (disappoints : exchange.disappoints = (Envelope.decode delivery.payload).isNone)
    {outcome : Outcome}
    (certain : foregone? { delivery := delivery, counts := counts } = some outcome) :
    exchange.Fails outcome := by
  simp only [foregone?, Option.ite_none_right_eq_some] at certain
  obtain ⟨hnone, ⟨⟩⟩ := certain
  exact .disappointed (disappoints.trans hnone)

end Intake

/-! ## Loops -/

section Loops

variable {σ : Type} {reckoning : Reckoning σ} {body : σ → Request Ending (Paced σ)}
  {before after loop : σ} {intake : Intake} {exchange : Exchange}

/-- What a move of a loop costs once a stop is requested, and what explains that an outcome is
certain after it, whether a stop is requested or not. -/
structure Costs (reckoning : Reckoning σ) (before : σ) (exchange : Exchange) (after : σ) :
    Prop where
  work : exchange.FindsStop → ∀ work,
    (exchange.does work).toNat + reckoning.allowance after work ≤ reckoning.allowance before work
  steps : exchange.FindsStop →
    exchange.isStep.toNat + reckoning.steps after ≤ reckoning.steps before
  explains : ∀ outcome, reckoning.foregone? after = some outcome →
    reckoning.foregone? before = some outcome ∨ exchange.Fails outcome ∨
      outcome = .ok .stopRequested

/-- A loop that is taking in a delivery: there is no more work than about the delivery, and then it
goes on and looks at the stop request. -/
structure IsTaking (reckoning : Reckoning σ) (loop : σ) (intake : Intake) : Prop where
  allowance : ∀ work, reckoning.allowance loop work = intake.stage.allowance work
  steps : reckoning.steps loop = intake.stage.steps + 2
  foregone : reckoning.foregone? loop = intake.foregone?

namespace IsTaking

theorem allowance_le (taking : IsTaking reckoning loop intake) (work : Work) :
    reckoning.allowance loop work ≤ 1 := by
  rw [taking.allowance]
  exact intake.stage.allowance_le work

theorem steps_le (taking : IsTaking reckoning loop intake) : reckoning.steps loop ≤ 8 := by
  have hsteps := intake.stage.steps_le
  rw [taking.steps]
  omega

end IsTaking

/-- A loop that has taken in a delivery: there is no more work, and it looks at the stop request
unless the intake has failed. -/
structure HasTaken (reckoning : Reckoning σ) (loop : σ) (intake : Intake) : Prop where
  allowance : ∀ work, reckoning.allowance loop work = 0
  steps : reckoning.steps loop ≤ 1
  foregone : reckoning.foregone? loop = intake.foregone?

namespace Costs

/-- An emission costs nothing. -/
theorem emit (emission : Emission) : Costs reckoning loop ⟨.emit emission, ()⟩ loop where
  work _ work := by cases work <;> simp [Exchange.does]
  steps _ := by simp [Exchange.isStep]
  explains _ certain := Or.inl certain

/-- The intake of a delivery moves on. -/
theorem handle {next : Paced Intake} (taking : IsTaking reckoning before intake)
    (move : Intake.Move intake exchange next) (onward : IsTaking reckoning after next.now) :
    Costs reckoning before exchange after where
  work _ work := by
    rw [taking.allowance, onward.allowance]
    exact move.work work
  steps _ := by
    have hone := exchange.isStep.toNat_le
    have hsteps := move.steps
    rw [taking.steps, onward.steps]
    omega
  explains outcome certain := by
    rw [onward.foregone] at certain
    rw [taking.foregone]
    exact (move.explains certain).imp_right Or.inl

/-- It is over. -/
theorem resume (taking : IsTaking reckoning before intake)
    (taken : HasTaken reckoning after intake) : Costs reckoning before ⟨.pause, ()⟩ after where
  work _ work := by
    rw [taken.allowance]
    cases work <;> simp [Exchange.does]
  steps _ := by
    have hlast := taken.steps
    rw [taking.steps]
    simp only [Exchange.isStep, Bool.toNat_true]
    omega
  explains outcome certain := by
    rw [taken.foregone, ← taking.foregone] at certain
    exact Or.inl certain

/-- What a move costs is paid for. -/
theorem pays (costs : Costs reckoning before exchange after) (finds : exchange.FindsStop) :
    reckoning.Pays True before exchange after where
  work work _ := costs.work finds work
  steps _ := costs.steps finds
  explains outcome certain := (costs.explains outcome certain).imp_right (Or.imp_right Or.inl)

end Costs

/-- What it takes for the reckoning of a loop to be right. -/
structure Reckons (reckoning : Reckoning σ) (body : σ → Request Ending (Paced σ)) : Prop where
  costs : ∀ {state : Paced σ} {query : Query} {next : query.Reply → Paced σ}
    (reply : query.Reply), state.request body = .ask query next →
      Costs reckoning state.now ⟨query, reply⟩ (next reply).now
  one : ∀ loop work, reckoning.allowance loop work ≤ 1
  few : ∀ loop, reckoning.steps loop ≤ 8
  certain : ∀ {loop outcome}, body loop = .finish outcome →
    reckoning.foregone? loop = some outcome

namespace Reckons

variable {start mid state : Paced σ} {turns earlier later : List (Turn σ)}

/-- A consumer never says that it completed a task. -/
theorem not_completed (reckons : Reckons reckoning body) (run : Run body start turns state)
    (begins : reckoning.foregone? start.now = none) :
    reckoning.foregone? state.now ≠ some (.ok .completed) := by
  induction run with
  | start => simp [begins]
  | ask before asks reply ih =>
    intro certain
    rcases (reckons.costs reply asks).explains _ certain with hbefore | hfails | hstopped
    · exact ih hbefore
    · cases hfails
    · cases hstopped

/-- A consumer whose reckoning is right honours stop requests. -/
theorem honoursStop (reckons : Reckons reckoning body) (run : Run body start earlier mid)
    (begins : reckoning.foregone? start.now = none) (rest : Run body mid later state)
    (finds : ∀ turn ∈ later, turn.exchange.FindsStop) :
    HonoursStop True False (reckoning.foregone? mid.now) later (state.request body).result? :=
  reckoning.honoursStop rest (P := fun _ => True) trivial finds
    (fun reply _ asks finds => ⟨trivial, (reckons.costs reply asks).pays finds⟩) reckons.one
    reckons.few (reckons.not_completed (run.append rest) begins) fun outcome finished => by
      obtain ⟨-, hfinish⟩ := Paced.finish_of_result finished
      exact reckons.certain hfinish

end Reckons

end Loops

/-! ## Pipelined consumers -/

namespace Pipelined

/-- How much work of each kind the loop may still do once a stop is requested. -/
@[simp] def Point.allowance : Point → Work → Nat
  | .asking, .read => 1
  | .asking, .receive => 1
  | .awaiting _, .receive => 1
  | .collecting _, .receive => 1
  | .asking, .note => 1
  | .awaiting _, .note => 1
  | .collecting _, .note => 1
  | .asking, .ack => 1
  | .awaiting _, .ack => 1
  | .collecting _, .ack => 1
  | .handling intake, work => intake.stage.allowance work
  | _, _ => 0

/-- How many steps it may still take. -/
@[simp] def Point.steps : Point → Nat
  | .asking => 8
  | .awaiting _ => 7
  | .collecting _ => 6
  | .handling intake => intake.stage.steps + 2
  | .head => 1
  | .impatient _ => 1
  | .refused => 1
  | .halted _ => 0

/-- The outcome of the loop, if it is certain. -/
@[simp] def Point.foregone? : Point → Option Outcome
  | .handling intake => intake.foregone?
  | .halted outcome => some outcome
  | _ => none

/-- What the loop will still do once a stop is requested. -/
def reckoning : Reckoning Loop where
  allowance loop := loop.point.allowance
  steps loop := loop.point.steps
  foregone? loop := loop.point.foregone?

variable {name : String} {handle : Handle} {state after : Paced Loop} {loop : Loop}
  {exchange : Exchange} {intake : Intake}

theorem isTaking (here : loop.point = .handling intake) : IsTaking reckoning loop intake := by
  constructor <;> simp [reckoning, here]

theorem hasTaken {result : Except Fault Bool} (ended : intake.stage = .over result) :
    HasTaken reckoning (.resume intake.counts result) intake := by
  obtain fault | (_ | _) := result <;> constructor <;>
    simp [reckoning, Loop.resume, Loop.halt, Loop.raise, Loop.goto, Intake.foregone?, ended]

/-- What each move costs.  Those that are made because there is no stop request cost nothing once
there is one, for they are not made then. -/
theorem Move.costs (move : Move handle state exchange after) :
    Costs reckoning state.now exchange after.now := by
  cases move with
  | emit emission rest loop => exact .emit emission
  | handle loop intake exchange next here move => exact .handle (isTaking here) move (isTaking rfl)
  | resume loop intake result here ended => exact .resume (isTaking here) (hasTaken ended)
  | take loop ticket delivery here =>
    constructor
    case work =>
      intro finds work
      cases work <;> simp_all [reckoning, Exchange.does]
    case steps => simp_all [reckoning, Exchange.isStep]
    case explains => exact fun outcome certain => .inr (.inl (Intake.fails_of_arrived rfl certain))
  | _ =>
    constructor
    case work =>
      intro finds work
      cases work <;> simp_all [reckoning, Exchange.does, Exchange.FindsStop]
    case steps => simp_all [reckoning, Exchange.isStep, Exchange.FindsStop]
    case explains => simp_all [reckoning, Exchange.fault?, Exchange.disappoints]

theorem reckons (name : String) (handle : Handle) : Reckons reckoning (request name handle) where
  costs reply asks := (Move.of_request asks reply).costs
  one loop work := by
    cases here : loop.point with
    | handling intake => exact (isTaking here).allowance_le work
    | _ => cases work <;> simp [reckoning, here]
  few loop := by
    cases here : loop.point with
    | handling intake => exact (isTaking here).steps_le
    | _ => simp [reckoning, here]
  certain finishes := by simp [reckoning, point_of_finish finishes]

/-- A pipelined consumer honours stop requests. -/
theorem honoursStop {before after : List (Turn Loop)} {mid : Paced Loop}
    (run : Run (request name handle) (.enter {}) before mid)
    (rest : Run (request name handle) mid after state)
    (finds : ∀ turn ∈ after, turn.exchange.FindsStop) :
    HonoursStop True False (reckoning.foregone? mid.now) after
      (state.request (request name handle)).result? :=
  (reckons name handle).honoursStop run rfl rest finds

end Pipelined

/-! ## Blocking consumers -/

namespace Blocking

/-- How much work of each kind the loop may still do once a stop is requested. -/
@[simp] def Point.allowance : Point → Work → Nat
  | .reading, .read => 1
  | .reading, .receive => 1
  | .reading, .note => 1
  | .reading, .ack => 1
  | .handling intake, work => intake.stage.allowance work
  | _, _ => 0

/-- How many steps it may still take. -/
@[simp] def Point.steps : Point → Nat
  | .reading => 6
  | .handling intake => intake.stage.steps + 2
  | .head => 1
  | .halted _ => 0

/-- The outcome of the loop, if it is certain. -/
@[simp] def Point.foregone? : Point → Option Outcome
  | .handling intake => intake.foregone?
  | .halted outcome => some outcome
  | _ => none

/-- What the loop will still do once a stop is requested. -/
def reckoning : Reckoning Loop where
  allowance loop := loop.point.allowance
  steps loop := loop.point.steps
  foregone? loop := loop.point.foregone?

variable {name : String} {handle : Handle} {state after : Paced Loop} {loop : Loop}
  {exchange : Exchange} {intake : Intake}

theorem isTaking (here : loop.point = .handling intake) : IsTaking reckoning loop intake := by
  constructor <;> simp [reckoning, here]

theorem hasTaken {result : Except Fault Bool} (ended : intake.stage = .over result) :
    HasTaken reckoning (.resume intake.counts result) intake := by
  obtain fault | (_ | _) := result <;> constructor <;>
    simp [reckoning, Loop.resume, Loop.halt, Loop.raise, Loop.goto, Intake.foregone?, ended]

/-- What each move costs.  Those that are made because there is no stop request cost nothing once
there is one, for they are not made then. -/
theorem Move.costs (move : Move handle state exchange after) :
    Costs reckoning state.now exchange after.now := by
  cases move with
  | emit emission rest loop => exact .emit emission
  | handle loop intake exchange next here move => exact .handle (isTaking here) move (isTaking rfl)
  | resume loop intake result here ended => exact .resume (isTaking here) (hasTaken ended)
  | take loop delivery here =>
    constructor
    case work =>
      intro finds work
      cases work <;> simp_all [reckoning, Exchange.does]
    case steps => simp_all [reckoning, Exchange.isStep]
    case explains => exact fun outcome certain => .inr (.inl (Intake.fails_of_arrived rfl certain))
  | _ =>
    constructor
    case work =>
      intro finds work
      cases work <;> simp_all [reckoning, Exchange.does, Exchange.FindsStop]
    case steps => simp_all [reckoning, Exchange.isStep, Exchange.FindsStop]
    case explains => simp_all [reckoning, Exchange.fault?]

theorem reckons (name : String) (handle : Handle) : Reckons reckoning (request name handle) where
  costs reply asks := (Move.of_request asks reply).costs
  one loop work := by
    cases here : loop.point with
    | handling intake => exact (isTaking here).allowance_le work
    | _ => cases work <;> simp [reckoning, here]
  few loop := by
    cases here : loop.point with
    | handling intake => exact (isTaking here).steps_le
    | _ => simp [reckoning, here]
  certain finishes := by simp [reckoning, point_of_finish finishes]

/-- A blocking consumer honours stop requests. -/
theorem honoursStop {before after : List (Turn Loop)} {mid : Paced Loop}
    (run : Run (request name handle) (.enter {}) before mid)
    (rest : Run (request name handle) mid after state)
    (finds : ∀ turn ∈ after, turn.exchange.FindsStop) :
    HonoursStop True False (reckoning.foregone? mid.now) after
      (state.request (request name handle)).result? :=
  (reckons name handle).honoursStop run rfl rest finds

end Blocking
end Consumer
end BrokerLoad
