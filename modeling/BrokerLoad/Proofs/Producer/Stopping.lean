import BrokerLoad.Proofs.Engine.Stopping
import BrokerLoad.Proofs.Producer.Orderly

/-!
# Producers honour stop requests

A producer looks at the stop request at the end of each of its turns, and a pipelined one
that abandons its window also while it waits.  So from the head of the loop there is one
write at most to the next look, with one id taken for it, and before it the collection of
one receipt.  The allowances below say how much of this is still to come from each place.

While a loop drains its window it takes no ids and writes nothing, so nothing is allowed for
it; but it collects all receipts, and only a loop that abandons its window is promised to
collect one at most.
-/

namespace BrokerLoad
namespace Producer

/-- An id was taken for every message that is to be sent, and every message was accepted. -/
structure History.IsSettled (options : Options) (history : History) : Prop where
  begun : history.minted.length = options.messages.toNat
  accepted : history.completed.length = options.messages.toNat

/-! ## Pipelined producers -/

namespace Pipelined

/-- How much work of each kind the loop may still do once a stop is requested. -/
@[simp] def Point.allowance (going : Bool) : Point → Work → Nat
  | .head, .mint => going.toNat
  | .awaiting _, .mint => going.toNat
  | .collecting _, .mint => going.toNat
  | .minting, .mint => 1
  | .head, .write => going.toNat
  | .awaiting _, .write => going.toNat
  | .collecting _, .write => going.toNat
  | .minting, .write => 1
  | .sending _, .write => 1
  | .resending _, .write => 1
  | .head, .collect => 1
  | .awaiting _, .collect => 1
  | .collecting _, .collect => 1
  | _, _ => 0

/-- How many steps it may still take if it abandons its window. -/
@[simp] def Point.steps : Point → Nat
  | .head => 6
  | .awaiting _ => 5
  | .collecting _ => 4
  | .minting => 3
  | .sending _ => 2
  | .resending _ => 2
  | .impatient _ => 1
  | .refused _ => 1
  | .checkpoint => 1
  | _ => 0

/-- The outcome of the loop, if it is certain. -/
@[simp] def Point.foregone? : Point → Option Outcome
  | .halted outcome => some outcome
  | _ => none

/-- What the loop will still do once a stop is requested. -/
def reckoning : Reckoning Loop where
  allowance loop := loop.point.allowance (!loop.draining)
  steps loop := loop.point.steps
  foregone? loop := loop.point.foregone?

/-- What a loop keeps to that may be asked to stop. -/
structure IsStoppable (options : Options) (loop : Loop) : Prop extends Fits options loop where
  /-- It does not drain a window that it is to abandon. -/
  going : options.stopPolicy = .abandon → loop.draining = false

variable {name : String} {options : Options} {handle : Handle} {state after : Paced Loop}
  {exchange : Exchange} {events : History} {turns : List (Turn Loop)}

theorem IsStoppable.move (stoppable : IsStoppable options state.now)
    (move : Move options handle state exchange events after) : IsStoppable options after.now where
  toFits := stoppable.toFits.move move
  going policy := by
    have hgoing := stoppable.going policy
    cases move with
    | drain loop here going drains => rw [policy] at drains; cases drains
    | _ => exact hgoing

theorem IsStoppable.of_run
    (run : Run (request name options handle) (.enter (.start options)) turns state) :
    IsStoppable options state.now :=
  history_induction (P := fun _ state => IsStoppable options state.now)
    ⟨.start options, fun _ => rfl⟩ (fun stoppable move => stoppable.move move) run

/-- The collection of a receipt is paid for, and so is what follows it. -/
theorem allowance_onward {loop : Loop} (fits : Fits options loop) (oldest : InFlight)
    (answer : Except Fault Receipt) (work : Work) :
    (Exchange.does work ⟨.broker (.takeReceipt oldest.ticket), answer⟩).toNat +
        (onward loop.remaining).allowance (!loop.draining) work ≤
      (Point.collecting oldest).allowance (!loop.draining) work := by
  rcases onward_cases loop.remaining with ⟨-, hon⟩ | ⟨hleft, hon⟩
  · rw [hon]
    cases work <;> simp [Exchange.does]
  · have hgoing : loop.draining = false :=
      Bool.eq_false_iff.2 fun hdraining => hleft (fits.drained hdraining)
    rw [hon, hgoing]
    cases work <;> simp [Exchange.does]

/-- Every move pays for the work that it does. -/
theorem Move.work (stoppable : IsStoppable options state.now)
    (move : Move options handle state exchange events after) (finds : exchange.FindsStop)
    (work : Work) (abandons : work = .collect → options.stopPolicy = .abandon) :
    (exchange.does work).toNat + after.now.point.allowance (!after.now.draining) work ≤
      state.now.point.allowance (!state.now.draining) work := by
  obtain ⟨fits, going⟩ := stoppable
  cases move with
  | emit emission rest loop => cases work <;> simp [Exchange.does]
  | accept loop oldest answer here ok =>
    rw [here]
    exact allowance_onward fits oldest _ work
  | drop loop oldest answer here refused below draining =>
    rw [here]
    exact allowance_onward fits oldest _ work
  | renew loop here left room =>
    have hgoing : loop.draining = false :=
      Bool.eq_false_iff.2 fun hdraining => left (fits.drained hdraining)
    cases work <;> simp_all [Exchange.does]
  | fail loop id attempt here =>
    rcases Point.of_submits? here with ⟨hpoint, -⟩ | ⟨retry, hpoint, -⟩ <;>
      cases work <;> simp_all [Exchange.does]
  | crash loop id attempt fault here =>
    rcases Point.of_submits? here with ⟨hpoint, -⟩ | ⟨retry, hpoint, -⟩ <;>
      cases work <;> simp_all [Exchange.does]
  | _ => cases work <;> simp_all [Exchange.does, Exchange.FindsStop]

/-- Every move that is more than an emission is one of the last steps. -/
theorem Move.steps (stoppable : IsStoppable options state.now)
    (move : Move options handle state exchange events after) (finds : exchange.FindsStop)
    (abandons : options.stopPolicy = .abandon) :
    exchange.isStep.toNat + after.now.point.steps ≤ state.now.point.steps := by
  have hgoing := stoppable.going abandons
  cases move with
  | emit emission rest loop => simp [Exchange.isStep]
  | accept loop oldest answer here ok =>
    rcases onward_cases loop.remaining with ⟨-, hon⟩ | ⟨-, hon⟩ <;>
      simp [Exchange.isStep, here, hon]
  | fail loop id attempt here =>
    rcases Point.of_submits? here with ⟨hpoint, -⟩ | ⟨retry, hpoint, -⟩ <;>
      simp [Exchange.isStep, hpoint]
  | crash loop id attempt fault here =>
    rcases Point.of_submits? here with ⟨hpoint, -⟩ | ⟨retry, hpoint, -⟩ <;>
      simp [Exchange.isStep, hpoint]
  | starve loop here => exact absurd here stoppable.fed
  | _ => simp_all [Exchange.isStep, Exchange.FindsStop]

/-- Every outcome that becomes certain is explained by the move that makes it so. -/
theorem Move.explains (move : Move options handle state exchange events after)
    {outcome : Outcome} (certain : after.now.point.foregone? = some outcome) :
    state.now.point.foregone? = some outcome ∨ exchange.Fails outcome ∨
      outcome = .ok .stopRequested ∨ outcome = .ok .completed := by
  cases move with
  | emit emission rest loop => exact Or.inl certain
  | finish loop here empty none_left => cases hdraining : loop.draining <;> simp_all
  | giveUp loop oldest answer line here refused cap =>
    cases certain
    exact Or.inr (Or.inl (.refused (by simp [Exchange.refuses, refused])))
  | spoil loop oldest fault here =>
    cases certain
    exact Or.inr (Or.inl (.fault fault rfl))
  | crash loop id attempt fault here =>
    cases certain
    exact Or.inr (Or.inl (.fault fault rfl))
  | explain loop id reason line here =>
    cases certain
    exact Or.inr (Or.inl (.disappointed rfl))
  | accept loop oldest answer here ok =>
    rcases onward_cases loop.remaining with ⟨-, hon⟩ | ⟨-, hon⟩ <;> simp [hon] at certain
  | drop loop oldest answer here refused below draining =>
    rcases onward_cases loop.remaining with ⟨-, hon⟩ | ⟨-, hon⟩ <;> simp [hon] at certain
  | _ => simp_all

/-- A loop that completes its task although a stop is requested does nothing more in between. -/
theorem silent_of_completed {start : Paced Loop}
    (run : Run (request name options handle) start turns state)
    (finds : ∀ turn ∈ turns, turn.exchange.FindsStop)
    (here : state.now.point = .halted (.ok .completed)) : history options turns = [] := by
  refine (run_induction (P := fun exchanges past state =>
      (∀ exchange ∈ exchanges, exchange.FindsStop) →
        (state.now.point = .head ∧ state.now.draining = false ∨
          state.now.point = .halted (.ok .completed)) → past = [])
    (fun _ _ => rfl) (fun before move hfinds hafter => ?_) run) ?_ (Or.inr here)
  · simp only [List.forall_mem_append, List.forall_mem_singleton] at hfinds
    have hbefore := before hfinds.1
    cases move with
    | accept loop oldest answer here ok =>
      rcases onward_cases loop.remaining with ⟨-, hon⟩ | ⟨-, hon⟩ <;> simp [hon] at hafter
    | drop loop oldest answer here refused below draining =>
      rcases onward_cases loop.remaining with ⟨-, hon⟩ | ⟨-, hon⟩ <;> simp [hon] at hafter
    | finish loop here empty none_left => cases hdraining : loop.draining <;> simp_all
    | _ => simp_all [Exchange.FindsStop]
  · simpa using finds

/-- A pipelined producer honours stop requests. -/
theorem honoursStop {before after : List (Turn Loop)} {mid : Paced Loop}
    (run : Run (request name options handle) (.enter (.start options)) before mid)
    (rest : Run (request name options handle) mid after state)
    (finds : ∀ turn ∈ after, turn.exchange.FindsStop) :
    HonoursStop (options.stopPolicy = .abandon) ((history options before).IsSettled options)
      (reckoning.foregone? mid.now) after
      (state.request (request name options handle)).result? := by
  have begins : IsStoppable options mid.now := .of_run run
  refine reckoning.honoursStop rest (P := fun state => IsStoppable options state.now) begins finds
    (fun reply stoppable asks finds => ?_) ?_ ?_ (fun completed => ?_) fun outcome result => ?_
  · obtain ⟨events, move⟩ := Move.of_request asks reply
    exact ⟨stoppable.move move, move.work stoppable finds, move.steps stoppable finds,
      fun _ certain => move.explains certain⟩
  · intro loop work
    cases hgoing : !loop.draining <;> cases hpoint : loop.point <;> cases work <;>
      simp [reckoning, hgoing, hpoint]
  · intro loop
    cases hpoint : loop.point <;> simp [reckoning, hpoint]
  · have hdone : state.now.point = .halted (.ok .completed) := by
      cases hpoint : state.now.point <;> simp_all [reckoning]
    have hfinished := (Balances.of_run (run.append rest)).finished hdone
    rw [history_append, silent_of_completed rest finds hdone, List.append_nil] at hfinished
    exact ⟨hfinished.1, hfinished.2⟩
  · simp [reckoning, (point_of_result result).2]

end Pipelined

/-! ## Blocking producers -/

namespace Blocking

/-- How much work of each kind the loop may still do once a stop is requested. -/
@[simp] def Point.allowance : Point → Work → Nat
  | .head, .mint => 1
  | .minting, .mint => 1
  | .head, .write => 1
  | .minting, .write => 1
  | .writing _ _, .write => 1
  | _, _ => 0

/-- How many steps it may still take. -/
@[simp] def Point.steps : Point → Nat
  | .head => 4
  | .minting => 3
  | .writing _ _ => 2
  | .afterRefusal _ _ => 1
  | .afterAcceptance => 1
  | .halted _ => 0

/-- The outcome of the loop, if it is certain. -/
@[simp] def Point.foregone? : Point → Option Outcome
  | .halted outcome => some outcome
  | _ => none

/-- What the loop will still do once a stop is requested. -/
def reckoning : Reckoning Loop where
  allowance loop := loop.point.allowance
  steps loop := loop.point.steps
  foregone? loop := loop.point.foregone?

variable {name : String} {options : Options} {handle : Handle} {state after : Paced Loop}
  {exchange : Exchange} {events : History} {turns : List (Turn Loop)}

/-- Every move pays for the work that it does. -/
theorem Move.work (move : Move options handle state exchange events after)
    (finds : exchange.FindsStop) (work : Work) :
    (exchange.does work).toNat + after.now.point.allowance work ≤
      state.now.point.allowance work := by
  cases move with
  | emit emission rest loop => cases work <;> simp [Exchange.does]
  | again loop id attempt here => simp [Exchange.FindsStop] at finds
  | goOn loop here => simp [Exchange.FindsStop] at finds
  | _ => cases work <;> simp_all [Exchange.does]

/-- Every move that is more than an emission is one of the last steps. -/
theorem Move.steps (move : Move options handle state exchange events after)
    (finds : exchange.FindsStop) :
    exchange.isStep.toNat + after.now.point.steps ≤ state.now.point.steps := by
  cases move with
  | emit emission rest loop => simp [Exchange.isStep]
  | again loop id attempt here => simp [Exchange.FindsStop] at finds
  | goOn loop here => simp [Exchange.FindsStop] at finds
  | _ => simp_all [Exchange.isStep]

/-- Every outcome that becomes certain is explained by the move that makes it so. -/
theorem Move.explains (move : Move options handle state exchange events after)
    {outcome : Outcome} (certain : after.now.point.foregone? = some outcome) :
    state.now.point.foregone? = some outcome ∨ exchange.Fails outcome ∨
      outcome = .ok .stopRequested ∨ outcome = .ok .completed := by
  cases move with
  | emit emission rest loop => exact Or.inl certain
  | giveUp loop id attempt answer line here refused cap =>
    cases certain
    exact Or.inr (Or.inl (.refused (by simp [Exchange.refuses, refused])))
  | crash loop id attempt fault here =>
    cases certain
    exact Or.inr (Or.inl (.fault fault rfl))
  | _ => simp_all

/-- A loop that completes its task although a stop is requested does nothing more in between. -/
theorem silent_of_completed {start : Paced Loop}
    (run : Run (request name options handle) start turns state)
    (finds : ∀ turn ∈ turns, turn.exchange.FindsStop)
    (here : state.now.point = .halted (.ok .completed)) : history turns = [] := by
  refine (run_induction (P := fun exchanges past state =>
      (∀ exchange ∈ exchanges, exchange.FindsStop) →
        (state.now.point = .head ∨ state.now.point = .halted (.ok .completed)) → past = [])
    (fun _ _ => rfl) (fun before move hfinds hafter => ?_) run) ?_ (Or.inr here)
  · simp only [List.forall_mem_append, List.forall_mem_singleton] at hfinds
    have hbefore := before hfinds.1
    cases move with
    | goOn loop here => simp [Exchange.FindsStop] at hfinds
    | _ => simp_all
  · simpa using finds

/-- A blocking producer honours stop requests. -/
theorem honoursStop {before after : List (Turn Loop)} {mid : Paced Loop}
    (run : Run (request name options handle) (.enter {}) before mid)
    (rest : Run (request name options handle) mid after state)
    (finds : ∀ turn ∈ after, turn.exchange.FindsStop) :
    HonoursStop True ((history before).IsSettled options) (reckoning.foregone? mid.now) after
      (state.request (request name options handle)).result? := by
  refine reckoning.honoursStop rest (P := fun _ => True) trivial finds
    (fun reply _ asks finds => ?_) ?_ ?_ (fun completed => ?_) fun outcome result => ?_
  · obtain ⟨events, move⟩ := Move.of_request asks reply
    exact ⟨trivial, fun work _ => move.work finds work, fun _ => move.steps finds,
      fun _ certain => move.explains certain⟩
  · intro loop work
    cases hpoint : loop.point <;> cases work <;> simp [reckoning, hpoint]
  · intro loop
    cases hpoint : loop.point <;> simp [reckoning, hpoint]
  · have hdone : state.now.point = .halted (.ok .completed) := by
      cases hpoint : state.now.point <;> simp_all [reckoning]
    have hfinished := (Balances.of_run (run.append rest)).finished hdone
    rw [history_append, silent_of_completed rest finds hdone, List.append_nil] at hfinished
    exact ⟨hfinished.1, hfinished.2⟩
  · simp [reckoning, (point_of_result result).2]

end Blocking
end Producer
end BrokerLoad
