import BrokerLoad.Proofs.Oracle.Answers
import BrokerLoad.Proofs.Producer.Budget
import BrokerLoad.Proofs.Producer.Effort
import BrokerLoad.Proofs.World

/-!
# Producers come to their end

A pipelined producer comes to its end in every world in which the receipts come that it waits
for, and a blocking one in every world.  Neither hands more messages to the broker on the way
than the messages times the cap, the numbers of its attempts are from one to the cap, and the
messages that are left to it or done with are counted without going round
(`producers_terminate`).

No single number gets less with every turn of a pipelined producer.  A repeat leaves the window
as large as it was and as many messages as there were, a receipt collected leaves the messages
alone, and a stop request that drains the window sets what is left to nothing in one step.  The
effort gets less with each of them, or the point is further on in its turn.  A wait leaves all
of these alone, and how long it still is only the world knows: a receipt that is there from
some turn on is nearer by one turn after every look.  That the receipts come is needed, since a
producer that drains its window waits for ever for one that does not (`Pipelined.waits_for_ever`).
-/

namespace BrokerLoad
namespace Producer

variable {name : String} {options : Options} {handle : Handle} {world : World}

/-- A pipelined producer comes to its end if the receipts come that it waits for. -/
theorem Pipelined.ends_of_delivers
    (delivers : world.Delivers (request name options handle) (.enter (.start options))) :
    world.Ends (request name options handle) (.enter (.start options)) := by
  choose since hready using delivers
  refine World.exists_finish (fun n => Loop.left options fun ticket => since ticket - n) ?_
  intro n query next asks
  have run := world.run (request name options handle) (.enter (.start options)) n
  obtain ⟨events, move⟩ := Move.of_request asks (world n query)
  refine move.nearer (.of_run run) (.of_run run) ⟨fun ticket looked => ?_, fun _ ticket => ?_⟩
  · -- a receipt that is not there yet is still to come
    obtain ⟨rfl, hreply⟩ := Sigma.mk.inj looked
    have hlater : n < since ticket := by
      by_contra hthere
      have hready := hready ticket n next (Nat.le_of_not_lt hthere) asks
      rw [hready] at hreply
      cases hreply
    omega
  · omega

/-- A pipelined producer that would drain its window waits for ever for a receipt that never
comes, whether it is asked to stop or not. -/
theorem Pipelined.waits_for_ever {start : Paced Loop} {loop : Loop} {oldest : InFlight} {n : Nat}
    (here : world.state (request name options handle) start n = .enter loop)
    (waits : loop.point = .awaiting oldest)
    (patient : loop.draining = true ∨ options.stopPolicy = .drain)
    (never : ∀ m, n ≤ m → world m (.broker (.receiptReady oldest.ticket)) = false) {m : Nat}
    (later : n ≤ m) : world.state (request name options handle) start m = .enter loop := by
  induction m, later using Nat.le_induction with
  | base => exact here
  | succ m later ih =>
    rw [World.state, ih]
    simp [Paced.enter, request, waits, never m later, patient]

/-- A blocking producer comes to its end. -/
theorem Blocking.ends (name : String) (options : Options) (handle : Handle) (world : World) :
    world.Ends (request name options handle) (.enter {}) := by
  refine World.exists_finish (fun _ => Loop.left options) ?_
  intro n query next asks
  have run := world.run (request name options handle) (.enter {}) n
  obtain ⟨events, move⟩ := Move.of_request asks (world n query)
  exact move.nearer (.of_run run) (.of_run run)

/-- Producers of either kind come to their end, whatever they are told to do, whatever the broker
answers and whenever they are asked to stop, as long as the receipts come that a pipelined one
waits for.  In all their runs, over or not, they hand no more messages to the broker than they
may, and neither the numbers of their attempts nor the messages left or done with go round. -/
theorem producers_terminate (name : String) (options : Options) (handle : Handle) :
    (∀ world : World,
      world.Delivers (Pipelined.request name options handle) (.enter (.start options)) →
        world.Ends (Pipelined.request name options handle) (.enter (.start options))) ∧
    (∀ turns state,
      Run (Pipelined.request name options handle) (.enter (.start options)) turns state →
        KeepsWithin options turns state.now.attempts state.now.point.repeats ∧
        Pipelined.CountsDown options (Pipelined.history options turns) state.now) ∧
    (∀ world : World, world.Ends (Blocking.request name options handle) (.enter {})) ∧
    (∀ turns state,
      Run (Blocking.request name options handle) (.enter {}) turns state →
        KeepsWithin options turns state.now.point.attempts state.now.point.repeats ∧
        Blocking.CountsUp options (Blocking.history turns) state.now) :=
  ⟨fun _ delivers => Pipelined.ends_of_delivers delivers,
    fun _ _ run => ⟨Pipelined.keepsWithin run, .of_run run⟩,
    Blocking.ends name options handle,
    fun _ _ run => ⟨Blocking.keepsWithin run, .of_run run⟩⟩

/-- One message that may be sent twice. -/
def twiceAtMost : Options :=
  { destination := "d", messages := 1, messageSize := 0, maxAttempts := 2 }

/-- A world in which a receipt comes eight turns after its submission, and what is sent in the
second turn is throttled. -/
def slowWorld : World
  | turn, .broker (.submit _ _) => .ok (some turn)
  | turn, .broker (.receiptReady ticket) => decide (ticket + 8 ≤ turn)
  | _, .broker (.takeReceipt ticket) => .ok { status := if ticket = 2 then .throttled else .ok }
  | turn, .broker (.write _ _) => .ok { status := if turn = 2 then .throttled else .ok }
  | _, query =>
    let oracle : Oracle := { verdict := fun _ _ => .ok, delay := fun _ => 0 }
    (({ ledger := {}, client := oracle } : Shared Oracle).answer false query).reply

/-- Both producers have a message throttled and send it again, and each comes to its end with as
many submissions as there may be. -/
theorem producers_terminate_after_repeat :
    (slowWorld.Ends (Pipelined.request "p" twiceAtMost 0) (.enter (.start twiceAtMost)) ∧
      ∃ turns state,
        Run (Pipelined.request "p" twiceAtMost 0) (.enter (.start twiceAtMost)) turns state ∧
        (state.request (Pipelined.request "p" twiceAtMost 0)).result? = some (.ok .completed) ∧
        submissions turns = 2 ∧
        KeepsWithin twiceAtMost turns state.now.attempts state.now.point.repeats ∧
        Pipelined.CountsDown twiceAtMost (Pipelined.history twiceAtMost turns) state.now) ∧
    slowWorld.Ends (Blocking.request "p" twiceAtMost 0) (.enter {}) ∧
      ∃ turns state,
        Run (Blocking.request "p" twiceAtMost 0) (.enter {}) turns state ∧
        (state.request (Blocking.request "p" twiceAtMost 0)).result? = some (.ok .completed) ∧
        submissions turns = 2 ∧
        KeepsWithin twiceAtMost turns state.now.point.attempts state.now.point.repeats ∧
        Blocking.CountsUp twiceAtMost (Blocking.history turns) state.now := by
  obtain ⟨ends, within, ends', within'⟩ := producers_terminate "p" twiceAtMost 0
  have run := slowWorld.run (Pipelined.request "p" twiceAtMost 0) (.enter (.start twiceAtMost)) 29
  have run' := slowWorld.run (Blocking.request "p" twiceAtMost 0) (.enter {}) 15
  exact ⟨⟨ends slowWorld fun ticket => ⟨ticket + 8, fun n _ hle _ => decide_eq_true hle⟩,
      _, _, run, rfl, rfl, within _ _ run⟩,
    ends' slowWorld, _, _, run', rfl, rfl, within' _ _ run'⟩

end Producer
end BrokerLoad
