import BrokerLoad.Proofs.Consumer.Stopping
import BrokerLoad.Proofs.Producer.Stopping

/-!
# All engines honour stop requests

The statement for all four kinds of loops at once.  The moment at which a stop is requested
may be any moment of a run: what comes before it is a run from the start of the loop, of
which nothing is assumed, and what comes after it is a run in which every look at the stop
request finds it.
-/

namespace BrokerLoad

/-- Once a stop is requested, at whatever moment of whatever run, no loop begins more than one
piece of work of each kind, save that a producer that drains its window collects all receipts.
It ends for the request or because what was left to do fails, and a producer may also end
because nothing is left to do: every message was accepted before. -/
theorem engines_honour_stops (name : String) (handle : Handle) :
    (∀ options before mid after state,
      Run (Producer.Pipelined.request name options handle) (.enter (.start options)) before mid →
      Run (Producer.Pipelined.request name options handle) mid after state →
      (∀ turn ∈ after, turn.exchange.FindsStop) →
      HonoursStop (options.stopPolicy = .abandon)
        ((Producer.Pipelined.history options before).IsSettled options)
        (Producer.Pipelined.reckoning.foregone? mid.now) after
        (state.request (Producer.Pipelined.request name options handle)).result?) ∧
    (∀ options before mid after state,
      Run (Producer.Blocking.request name options handle) (.enter {}) before mid →
      Run (Producer.Blocking.request name options handle) mid after state →
      (∀ turn ∈ after, turn.exchange.FindsStop) →
      HonoursStop True ((Producer.Blocking.history before).IsSettled options)
        (Producer.Blocking.reckoning.foregone? mid.now) after
        (state.request (Producer.Blocking.request name options handle)).result?) ∧
    (∀ before mid after state,
      Run (Consumer.Pipelined.request name handle) (.enter {}) before mid →
      Run (Consumer.Pipelined.request name handle) mid after state →
      (∀ turn ∈ after, turn.exchange.FindsStop) →
      HonoursStop True False (Consumer.Pipelined.reckoning.foregone? mid.now) after
        (state.request (Consumer.Pipelined.request name handle)).result?) ∧
    (∀ before mid after state,
      Run (Consumer.Blocking.request name handle) (.enter {}) before mid →
      Run (Consumer.Blocking.request name handle) mid after state →
      (∀ turn ∈ after, turn.exchange.FindsStop) →
      HonoursStop True False (Consumer.Blocking.reckoning.foregone? mid.now) after
        (state.request (Consumer.Blocking.request name handle)).result?) :=
  ⟨fun _ _ _ _ _ run rest finds => Producer.Pipelined.honoursStop run rest finds,
    fun _ _ _ _ _ run rest finds => Producer.Blocking.honoursStop run rest finds,
    fun _ _ _ _ run rest finds => Consumer.Pipelined.honoursStop run rest finds,
    fun _ _ _ _ run rest finds => Consumer.Blocking.honoursStop run rest finds⟩

/-- Producers that are asked to stop before they write anything, and consumers that are asked to
stop before they ask for a delivery: each goes on to the next look at the request. -/
theorem engines_honour_stops_at_next_look :
    (∃ (after : List (Turn Producer.Pipelined.Loop)) (state : Paced Producer.Pipelined.Loop),
      (state.request (Producer.Pipelined.request "p" { destination := "d", messages := 2 }
        0)).result? = some (.ok .stopRequested) ∧
      HonoursStop (Producer.StopPolicy.abandon = .abandon)
        (Producer.History.IsSettled { destination := "d", messages := 2 } []) none after
        (state.request (Producer.Pipelined.request "p" { destination := "d", messages := 2 }
          0)).result?) ∧
    (∃ (after : List (Turn Producer.Blocking.Loop)) (state : Paced Producer.Blocking.Loop),
      (state.request (Producer.Blocking.request "p" { destination := "d", messages := 2 }
        0)).result? = some (.ok .stopRequested) ∧
      HonoursStop True (Producer.History.IsSettled { destination := "d", messages := 2 } []) none
        after
        (state.request (Producer.Blocking.request "p" { destination := "d", messages := 2 }
          0)).result?) ∧
    (∃ (after : List (Turn Consumer.Pipelined.Loop)) (state : Paced Consumer.Pipelined.Loop),
      (state.request (Consumer.Pipelined.request "c" 0)).result? = some (.ok .stopRequested) ∧
      HonoursStop True False none after
        (state.request (Consumer.Pipelined.request "c" 0)).result?) ∧
    (∃ (after : List (Turn Consumer.Blocking.Loop)) (state : Paced Consumer.Blocking.Loop),
      (state.request (Consumer.Blocking.request "c" 0)).result? = some (.ok .stopRequested) ∧
      HonoursStop True False none after
        (state.request (Consumer.Blocking.request "c" 0)).result?) := by
  refine ⟨?_, ?_, ?_, ?_⟩
  · have begun : Run
        (Producer.Pipelined.request "p" { destination := "d", messages := 2 } 0)
        (.enter (.start { destination := "d", messages := 2 })) _ _ := .start
    have sent := ((begun.ask rfl ()).ask rfl 1).ask rfl (Except.ok (some (5 : Ticket)))
    have found := ((sent.ask rfl ()).ask rfl ()).ask rfl true
    exact ⟨_, _, rfl, (engines_honour_stops "p" 0).1 _ _ _ _ _ .start found
      (by simp [Exchange.FindsStop])⟩
  · have begun : Run
        (Producer.Blocking.request "p" { destination := "d", messages := 2 } 0)
        (.enter {}) _ _ := .start
    have written := ((begun.ask rfl ()).ask rfl 1).ask rfl (Except.ok ⟨WriteStatus.ok, ""⟩)
    have found := (((written.ask rfl ()).ask rfl ()).ask rfl ()).ask rfl true
    exact ⟨_, _, rfl, (engines_honour_stops "p" 0).2.1 _ _ _ _ _ .start found
      (by simp [Exchange.FindsStop])⟩
  · have begun : Run (Consumer.Pipelined.request "c" 0) (.enter {}) _ _ := .start
    have asking : Run (Consumer.Pipelined.request "c" 0) ⟨[], { point := .asking }⟩ _ _ := .start
    have waiting := asking.ask rfl (Except.ok (some (7 : Ticket)))
    have found := (waiting.ask rfl false).ask rfl true
    exact ⟨_, _, rfl, (engines_honour_stops "c" 0).2.2.1 _ _ _ _ (begun.ask rfl false) found
      (by simp [Exchange.FindsStop])⟩
  · have begun : Run (Consumer.Blocking.request "c" 0) (.enter {}) _ _ := .start
    have reading : Run (Consumer.Blocking.request "c" 0) ⟨[], { point := .reading }⟩ _ _ := .start
    have found := (reading.ask rfl (Except.ok (none : Option Delivery))).ask rfl true
    exact ⟨_, _, rfl, (engines_honour_stops "c" 0).2.2.2 _ _ _ _ (begun.ask rfl false) found
      (by simp [Exchange.FindsStop])⟩

end BrokerLoad
