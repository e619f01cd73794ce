import BrokerLoad.Proofs.Crew.Alone
import BrokerLoad.Proofs.Oracle.Blocking
import BrokerLoad.Proofs.Oracle.Pipelined

/-!
# The result of a producer is foretold

A worker that is alone with an oracle does what its loop does (`Crew.exists_finished`), and of
what it does besides nothing is sent or counted.  So what is known of the loop of a producer at
its end is known of the worker (`Crew.exists_ended`), and since it depends on the verdicts only,
it does not matter what kind of producer it is, how large its window is, or how long receipts let
themselves be waited for (`Crew.foretold`).
-/

namespace BrokerLoad

namespace Crew

/-- A worker alone with an oracle comes to its end if the loop of its engine does. -/
theorem exists_alone {σ : Type} {name : String} {role : Role}
    {body : Handle → σ → Request Ending (Paced σ)} {wrap : Paced (Handling σ) → Engine}
    {loop : σ} {state : Paced σ} {turns : List (Turn σ)} {start shared : Shared Oracle}
    {ending : Ending}
    (wraps : ∀ state, (wrap state).request name =
      (state.request (Handling.request name role body)).map wrap)
    (attended : Attended (body 0) (.enter loop) (start.say [.out (name ++ " started")]) turns state
      shared)
    (finishes : state.request (body 0) = .finish (.ok ending)) :
    ∃ bound life after, life.isDone = true ∧ life.ending = ending ∧
      after.ledger = shared.ledger ∧ after.client = shared.client ∧
      runWorker 0 bound (Crew.start ⟨start, [.hire name (wrap (Handling.begin loop))]⟩ 0) =
        ⟨after, [⟨life, wrap (.enter ⟨.over (.ok ending), state.now⟩)⟩]⟩ := by
  obtain ⟨bound, hrun⟩ := exists_finished wraps rfl rfl (fun _ => rfl) attended finishes
  refine ⟨bound, _, _, ?_, ?_, ?_, ?_, hrun⟩ <;> rfl

/-- A producer of whatever kind comes to an end of which it is known what it is like. -/
theorem exists_ended (name : String) (isPipelined : Bool) (options : Producer.Options)
    (start : Shared Oracle) (fresh : start.client.sent = []) :
    ∃ bound life engine after counts history ending, life.isDone = true ∧ life.ending = ending ∧
      engine.counts = .producer counts ∧
      Producer.Ends start.client.verdict options start.ledger after.ledger after.client.sent history
        counts ending ∧
      runWorker 0 bound (Crew.start ⟨start, [.hire name (.producer isPipelined options)]⟩ 0) =
        ⟨after, [⟨life, engine⟩]⟩ := by
  cases isPipelined with
  | true =>
    obtain ⟨turns, state, shared, ending, attended, hfinish, hends⟩ :=
      Producer.Pipelined.exists_ends name options 0 (start.say [.out (name ++ " started")]) fresh
    obtain ⟨bound, life, after, hdone, hending, hledger, hclient, hrun⟩ :=
      exists_alone (request_pipelinedProducer name options) attended hfinish
    exact ⟨bound, life, _, after, _, _, ending, hdone, hending, rfl, hledger ▸ hclient ▸ hends,
      hrun⟩
  | false =>
    obtain ⟨turns, state, shared, ending, attended, hfinish, hends⟩ :=
      Producer.Blocking.exists_ends name options 0 (start.say [.out (name ++ " started")]) fresh
    obtain ⟨bound, life, after, hdone, hending, hledger, hclient, hrun⟩ :=
      exists_alone (request_blockingProducer name options) attended hfinish
    exact ⟨bound, life, _, after, _, _, ending, hdone, hending, rfl, hledger ▸ hclient ▸ hends,
      hrun⟩

/-- A crew of one worker that nobody has started, with an oracle. -/
def alone (ledger : Ledger) (oracle : Oracle) (name : String) (engine : Engine) : Crew Oracle :=
  ⟨{ ledger, client := oracle }, [.hire name engine]⟩

/-- A producer that is alone with an oracle comes to its end, and its result depends on nothing
but the verdicts, how many messages of what size it is to send, how often it may send each, and
what the ledger said before: neither on the kind of producer nor on its window, nor on what it
would do if it were asked to stop, nor on how long receipts let themselves be waited for. -/
theorem foretold (name : String) (isPipelined : Bool) (options : Producer.Options)
    (ledger : Ledger) (verdict : UInt64 → Nat → WriteStatus) (delay : Ticket → Nat) :
    ∃ (bound : Nat) (life : Lifecycle) (engine : Engine) (after : Shared Oracle)
      (counts : Producer.Counts),
      runWorker 0 bound
          ((alone ledger { verdict, delay } name (.producer isPipelined options)).start 0) =
        ⟨after, [⟨life, engine⟩]⟩ ∧
      life.isDone = true ∧ engine.counts = .producer counts ∧
      (Forecast.AcceptsAll verdict options.maxAttempts
          (wordsAfter ledger.ids.latest options.messages.toNat) →
        life.ending = .completed ∧
        Forecast.Fulfils verdict options.messages options.messageSize options.maxAttempts
          (wordsAfter ledger.ids.latest options.messages.toNat) ledger after.ledger
          after.client.sent counts) ∧
      (¬ Forecast.AcceptsAll verdict options.maxAttempts
          (wordsAfter ledger.ids.latest options.messages.toNat) →
        life.ending = .attemptsExceeded) := by
  obtain ⟨bound, life, engine, after, counts, history, ending, hdone, rfl, hcounts, ends, hrun⟩ :=
    exists_ended name isPipelined options { ledger, client := { verdict, delay } } rfl
  refine ⟨bound, life, engine, after, counts, hrun, hdone, hcounts, fun accepts => ?_,
    fun refuses => ?_⟩
  · have hcompleted : life.ending = .completed := by
      by_contra hunfinished
      exact ends.not_acceptsAll hunfinished accepts
    exact ⟨hcompleted, (hcompleted ▸ ends).fulfils⟩
  · have hunfinished : life.ending ≠ .completed := fun hcompleted =>
      refuses (hcompleted ▸ ends).acceptsAll
    exact (ends.exceeded hunfinished).1

end Crew
end BrokerLoad
