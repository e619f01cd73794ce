import BrokerLoad.Proofs.Crew.Alone
import BrokerLoad.Proofs.Docket.Abreast

/-!
# A window of one is no window

A pipelined producer that may have one submission in flight at once is a blocking producer: to a
worker that is alone with a docket it makes no difference which of the two it drives
(`Crew.window_of_one`).  Both send the same messages in the same order, end for the same reason
with the same counts, and leave the same ledger and the same log behind, whatever the submissions
come to: accepted, throttled, refused for good or ended by a fault.

That the loops come to the same end is `Producer.endLevel`.  What a worker does besides is a
function of the outcome of its loop (`Crew.exists_finished`).
-/

namespace BrokerLoad
namespace Crew

/-- How long receipts let themselves be waited for makes no difference to how a worker ends. -/
theorem leaving_delayed (name : String) (role : Role) (handle : Handle) (outcome : Outcome)
    (shared : Shared Docket) (delay : Ticket → Nat) :
    leaving name role handle outcome (shared.delayed delay) =
      (leaving name role handle outcome shared).delayed delay := by
  rw [leaving, leaving, Shared.absorbAll_delayed]
  rcases outcome with (_ | _) | _ <;> rfl

/-- Two workers of one name, each alone with a docket that says the same, one driving a pipelined
and the other a blocking producer: if one submission may be in flight at once, then both end, for
the same reason and with the same counts; they have sent the same messages in the same order; and
the ledger and the log are the same afterwards. -/
theorem window_of_one (name : String) (options : Producer.Options)
    (single : options.maxInFlight ≤ 1) (start : Shared Docket) :
    ∃ (bound bound' : Nat) (life : Lifecycle) (engine engine' : Engine)
      (counts : Producer.Counts) (after after' : Shared Docket),
      runWorker 0 bound (Crew.start ⟨start, [.hire name (.producer true options)]⟩ 0) =
        ⟨after, [⟨life, engine⟩]⟩ ∧
      runWorker 0 bound' (Crew.start ⟨start, [.hire name (.producer false options)]⟩ 0) =
        ⟨after', [⟨life, engine'⟩]⟩ ∧
      life.isDone = true ∧
      engine.counts = .producer counts ∧ engine'.counts = .producer counts ∧
      after.client.sent = after'.client.sent ∧ after.ledger = after'.ledger ∧
      after.log = after'.log := by
  obtain ⟨outcome, last, last', sharing, ⟨goes, turns', hattended'⟩, hhalted, hhalted', hcounts⟩ :=
    Producer.endLevel name 0 (Producer.Options.window_eq_one single)
      (entering name options.role 0 start)
  obtain ⟨delay, turns, hattended⟩ : ∃ delay, Gets (Producer.Pipelined.request name options 0)
      (.enter (.start options)) (entering name options.role 0 start) ⟨[], last⟩
      (sharing.delayed delay) := goes start.client.delay
  have hfinish' : (⟨[], last'⟩ : Paced Producer.Blocking.Loop).request
      (Producer.Blocking.request name options 0) = .finish outcome := by
    rw [Paced.request_nil, Producer.Blocking.request, hhalted']
  obtain ⟨bound, hrun⟩ := exists_finished (request_pipelinedProducer name options) rfl rfl
    (fun _ => rfl) hattended (Producer.Pipelined.request_of_halted hhalted)
  obtain ⟨bound', hrun'⟩ := exists_finished (request_blockingProducer name options) rfl rfl
    (fun _ => rfl) hattended' hfinish'
  rw [leaving_delayed] at hrun
  exact ⟨bound, bound', _, _, _, last.counts, _, _, hrun, hrun', rfl, rfl,
    congrArg Engine.Counts.producer hcounts.symm, rfl, rfl, rfl⟩

/-- Three messages with two attempts each: the first is throttled and then accepted, the second
accepted at once, and the writing of the third ends in a fault. -/
theorem window_of_one_failing_write :
    (1 : UInt64) ≤ 1 ∧
    ∃ (bound bound' : Nat) (life : Lifecycle) (engine engine' : Engine)
      (counts : Producer.Counts) (after after' : Shared Docket),
      runWorker 0 bound (Crew.start ⟨{ client :=
          { outcome := fun number =>
              if number = 0 then .ok ⟨.throttled, "slow down"⟩
              else if number < 3 then .ok ⟨.ok, ""⟩
              else .error (.error "connection lost")
            delay := fun ticket => ticket } },
          [.hire "publisher" (.producer true
            { destination := "/d", messages := 3, maxInFlight := 1, maxAttempts := 2 })]⟩ 0) =
        ⟨after, [⟨life, engine⟩]⟩ ∧
      runWorker 0 bound' (Crew.start ⟨{ client :=
          { outcome := fun number =>
              if number = 0 then .ok ⟨.throttled, "slow down"⟩
              else if number < 3 then .ok ⟨.ok, ""⟩
              else .error (.error "connection lost")
            delay := fun ticket => ticket } },
          [.hire "publisher" (.producer false
            { destination := "/d", messages := 3, maxInFlight := 1, maxAttempts := 2 })]⟩ 0) =
        ⟨after', [⟨life, engine'⟩]⟩ ∧
      life.isDone = true ∧
      engine.counts = .producer counts ∧ engine'.counts = .producer counts ∧
      after.client.sent = after'.client.sent ∧ after.ledger = after'.ledger ∧
      after.log = after'.log :=
  ⟨UInt64.le_refl 1, window_of_one _ _ (UInt64.le_refl 1) _⟩

end Crew
end BrokerLoad
