import BrokerLoad.Proofs.Consumer.History
import BrokerLoad.Consumer.Intake
import BrokerLoad.Worker.Ending

/-!
# What a consumer has done and has still to do

A consumer that has been handed a delivery has its id to note, an acknowledgement to ask for,
counters to bump and, if something goes wrong, an error to report.  How much of that is still to
be done depends on how far it has come with the delivery (`Phase`) and on what it is about to say.
Both kinds of consumers go through the same phases, and `Step` lists what can happen in them.

Every step conserves what there is to do: what was to be done and what comes in with the step is
what is done in it and what is to be done then.  There is one such law for each thing that is kept
account of (`Step.gain`, `Step.noted`, `Step.tried`), and with the laws for a consumer's own counts
they add up to `Agrees`, which holds of a consumer in whatever phase it is.  A step in which
something fails is the last in which anything happens to a delivery (`Step.fails`,
`Step.events_eq_nil`), and so there is no second error.
-/

namespace BrokerLoad
namespace Consumer

/-- How far a consumer has come with a delivery. -/
inductive Phase where
  /-- It has none, and may ask for one. -/
  | between
  /-- One has been handed over. -/
  | arrived (delivery : Delivery)
  /-- Its id is about to be noted. -/
  | noting (id : UInt64) (delivery : Delivery)
  /-- It is about to be acknowledged. -/
  | acking (delivery : Delivery)
  /-- It has been acknowledged, and is about to be counted. -/
  | settled
  /-- It has not been, and that has been reported. -/
  | dropped
  /-- Something has failed and has not been reported so far. -/
  | failing
  /-- There will be no more deliveries. -/
  | done

namespace Phase

/-- How far a consumer has come that is through with a delivery. -/
@[simp] def ofResult : Except Fault Bool → Phase
  | .ok true => .settled
  | .ok false => .dropped
  | .error (.error _) => .failing
  | .error .foreign => .dropped

/-- How far a consumer has come whose loop has ended. -/
@[simp] def ofOutcome : Outcome → Phase
  | .ok _ => .done
  | .error (.error _) => .failing
  | .error .foreign => .done

/-- The id that is still to be noted, if there is one. -/
@[simp] def unnoted : Phase → List UInt64
  | .arrived delivery => delivery.payload.id?.toList
  | .noting id _ => [id]
  | _ => []

/-- The delivery that is still to be acknowledged, if there is one. -/
@[simp] def untried : Phase → List Delivery
  | .arrived delivery => [delivery].filter fun delivery => delivery.payload.id?.isSome
  | .noting _ delivery => [delivery]
  | .acking delivery => [delivery]
  | _ => []

/-- How many errors are still to be reported. -/
@[simp] def owes : Phase → Nat
  | .arrived delivery => delivery.payload.id?.isNone.toNat
  | .failing => 1
  | _ => 0

/-- How many acknowledged deliveries are still to be counted. -/
@[simp] def uncounted : Phase → UInt64
  | .settled => 1
  | _ => 0

/-- Whether nothing has failed and the consumer goes on. -/
@[simp] def isLive : Phase → Bool
  | .arrived delivery => delivery.payload.id?.isSome
  | .dropped => false
  | .failing => false
  | .done => false
  | _ => true

/-- Whether no delivery is at hand, and no error that is to be reported. -/
@[simp] def isRest : Phase → Bool
  | .between => true
  | .done => true
  | _ => false

end Phase

/-- Where a consumer stands: what it is about to say, how far it has come, and what it has
counted. -/
structure Standing where
  pending : List Emission
  phase : Phase
  counts : Counts

/-- What can happen to a consumer, of either kind and in whatever place. -/
inductive Step : Standing → Exchange → History → Standing → Prop
  /-- An emission is made. -/
  | emit (emission : Emission) (rest : List Emission) (phase : Phase) (counts : Counts) :
    Step ⟨emission :: rest, phase, counts⟩ ⟨.emit emission, ()⟩ [] ⟨rest, phase, counts⟩
  /-- No delivery is there so far. -/
  | wait (exchange : Exchange) (counts later : Counts) (silent : exchange.emission? = none)
      (idle : exchange.event? = none) (same : later = counts ∨ later = counts.addTimeout) :
    Step ⟨[], .between, counts⟩ exchange [] ⟨[], .between, later⟩
  /-- There will be none any more. -/
  | stop (exchange : Exchange) (reports : List Emission) (phase : Phase) (counts : Counts)
      (silent : exchange.emission? = none) (idle : exchange.event? = none)
      (rests : phase = .between ∨ phase = .dropped ∨ phase = .done)
      (quiet : ∀ gauge, (reports.map (Emission.gain gauge)).sum = 0) :
    Step ⟨[], phase, counts⟩ exchange [] ⟨reports, .done, counts⟩
  /-- A delivery is handed over. -/
  | take (exchange : Exchange) (delivery : Delivery) (counts : Counts)
      (silent : exchange.emission? = none) (hands : exchange.event? = some (.handed delivery)) :
    Step ⟨[], .between, counts⟩ exchange [.handed delivery]
      ⟨[.sample .read], .arrived delivery, counts⟩
  /-- There was to be one and there is none. -/
  | fail (exchange : Exchange) (counts : Counts) (silent : exchange.emission? = none)
      (fails : exchange.event? = some .failed) :
    Step ⟨[], .between, counts⟩ exchange [.failed] ⟨[], .failing, counts⟩
  /-- The same, and it is reported at once. -/
  | miss (exchange : Exchange) (line : LogLine) (counts : Counts)
      (silent : exchange.emission? = none) (fails : exchange.event? = some .failed) :
    Step ⟨[], .between, counts⟩ exchange [.failed]
      ⟨[.say line, .bump .receiveErrors 1], .done, counts⟩
  /-- An error is handed on. -/
  | carry (counts : Counts) : Step ⟨[], .failing, counts⟩ ⟨.pause, ()⟩ [] ⟨[], .failing, counts⟩
  /-- It is reported. -/
  | report (exchange : Exchange) (line : LogLine) (counts : Counts)
      (silent : exchange.emission? = none) (idle : exchange.event? = none) :
    Step ⟨[], .failing, counts⟩ exchange [] ⟨[.say line, .bump .receiveErrors 1], .done, counts⟩
  /-- The delivery is an envelope. -/
  | decode (delivery : Delivery) (id : UInt64) (counts : Counts)
      (decodes : delivery.payload.id? = some id) :
    Step ⟨[], .arrived delivery, counts⟩ ⟨.pause, ()⟩ [] ⟨[], .noting id delivery, counts⟩
  /-- It is none. -/
  | garble (delivery : Delivery) (line : LogLine) (counts : Counts)
      (garbled : delivery.payload.id? = none) :
    Step ⟨[], .arrived delivery, counts⟩ ⟨.pause, ()⟩ []
      ⟨[.say line, .bump .receiveErrors 1], .dropped, counts⟩
  /-- Its id is noted, and it is new. -/
  | note (delivery : Delivery) (id : UInt64) (counts : Counts) :
    Step ⟨[], .noting id delivery, counts⟩ ⟨.note id, true⟩ [.noted id true]
      ⟨[], .acking delivery, counts⟩
  /-- Its id is noted, and it was seen before. -/
  | repeat (delivery : Delivery) (id : UInt64) (counts : Counts) :
    Step ⟨[], .noting id delivery, counts⟩ ⟨.note id, false⟩ [.noted id false]
      ⟨[.bump .duplicates 1], .acking delivery, counts.addDuplicate⟩
  /-- It is acknowledged. -/
  | ack (delivery : Delivery) (counts : Counts) :
    Step ⟨[], .acking delivery, counts⟩ ⟨.broker (.ack delivery), .ok true⟩
      [.acked delivery (.ok true)]
      ⟨[.bump .messagesIn 1, .bump .bytesIn delivery.payload.length.toUInt64], .settled,
        counts.addAck⟩
  /-- The broker does not take the acknowledgement. -/
  | reject (delivery : Delivery) (line : LogLine) (counts : Counts) :
    Step ⟨[], .acking delivery, counts⟩ ⟨.broker (.ack delivery), .ok false⟩
      [.acked delivery (.ok false)] ⟨[.say line, .bump .receiveErrors 1], .dropped, counts⟩
  /-- Acknowledging it ends in an error. -/
  | crash (delivery : Delivery) (what : String) (counts : Counts) :
    Step ⟨[], .acking delivery, counts⟩ ⟨.broker (.ack delivery), .error (.error what)⟩
      [.acked delivery (.error (.error what))] ⟨[], .failing, counts⟩
  /-- It ends in a fault that is none. -/
  | abort (delivery : Delivery) (counts : Counts) :
    Step ⟨[], .acking delivery, counts⟩ ⟨.broker (.ack delivery), .error .foreign⟩
      [.acked delivery (.error .foreign)] ⟨[], .dropped, counts⟩
  /-- An acknowledged delivery is counted. -/
  | resume (counts : Counts) :
    Step ⟨[], .settled, counts⟩ ⟨.pause, ()⟩ [] ⟨[], .between, counts.addReceived⟩

namespace Step

variable {exchange : Exchange} {counts : Counts}

/-- A call for a delivery that ends in a fault. -/
theorem of_fault (fault : Fault) (silent : exchange.emission? = none)
    (ends : exchange.event? = fault.event?) :
    ∃ events, Step ⟨[], .between, counts⟩ exchange events
      ⟨[], .ofOutcome (.error fault), counts⟩ := by
  cases fault with
  | error what => exact ⟨_, .fail _ _ silent ends⟩
  | foreign => exact ⟨_, .stop _ [] _ _ silent ends (.inl rfl) fun _ => rfl⟩

/-- A consumer that is not through with a delivery as it should be asks for no other. -/
theorem of_error (fault : Fault) :
    ∃ events, Step ⟨[], .ofResult (.error fault), counts⟩ ⟨.pause, ()⟩ events
      ⟨[], .ofOutcome (.error fault), counts⟩ := by
  cases fault with
  | error what => exact ⟨_, .carry _⟩
  | foreign => exact ⟨_, .stop _ [] _ _ rfl rfl (.inr (.inl rfl)) fun _ => rfl⟩

end Step

/-! ## What a step conserves -/

/-- How far a gauge is behind what has happened. -/
def Standing.dues (standing : Standing) (gauge : Gauge) : Nat :=
  (standing.pending.map (Emission.gain gauge)).sum +
    if gauge = .counter .receiveErrors then standing.phase.owes else 0

@[simp] theorem gain_say (gauge : Gauge) (line : LogLine) :
    Emission.gain gauge (.say line) = 0 := by
  cases gauge <;> rfl

theorem isNone_add_isSome {α : Type} (a? : Option α) : a?.isNone.toNat + a?.isSome.toNat = 1 := by
  cases a? <;> rfl

namespace Step

variable {before after : Standing} {exchange : Exchange} {events : History}

/-- The events of a step are those of its exchange. -/
theorem event (step : Step before exchange events after) : exchange.event?.toList = events := by
  cases step <;> simp_all [Exchange.event?]

/-- Gauges are moved as the events say, now or later. -/
theorem gain (step : Step before exchange events after) (gauge : Gauge) :
    exchange.gain gauge + after.dues gauge = before.dues gauge + events.gain gauge := by
  cases step with
  | emit emission rest phase counts =>
    rw [Standing.dues, Standing.dues, List.map_cons, List.sum_cons, ← Nat.add_assoc]
    rfl
  | stop exchange reports phase counts silent idle rests quiet =>
    rcases rests with rfl | rfl | rfl <;> simp [Standing.dues, quiet, Exchange.gain, silent]
  | _ =>
    rcases gauge with (_ | _ | _ | _ | _ | _ | _ | _) | (_ | _) <;>
      simp_all [Standing.dues, Emission.gain, Exchange.gain, Exchange.emission?]

/-- The ids carried by what is handed over are noted, now or later. -/
theorem noted (step : Step before exchange events after) :
    before.phase.unnoted ++ events.carried = events.noted ++ after.phase.unnoted := by
  cases step with
  | stop exchange reports phase counts silent idle rests quiet =>
    rcases rests with rfl | rfl | rfl <;> rfl
  | _ => simp_all

/-- Envelopes that are handed over are to be acknowledged, now or later. -/
theorem tried (step : Step before exchange events after) :
    before.phase.untried ++ events.envelopes = events.tried ++ after.phase.untried := by
  cases step with
  | stop exchange reports phase counts silent idle rests quiet =>
    rcases rests with rfl | rfl | rfl <;> rfl
  | _ => simp_all

/-- A failure is the end. -/
theorem fails (step : Step before exchange events after) :
    events.failures + after.phase.isLive.toNat ≤ before.phase.isLive.toNat := by
  cases step with
  | stop exchange reports phase counts silent idle rests quiet =>
    rcases rests with rfl | rfl | rfl <;> simp
  | take exchange delivery counts silent hands => simp [isNone_add_isSome]
  | _ => simp_all

/-- Nothing happens after it. -/
theorem events_eq_nil (step : Step before exchange events after)
    (past : before.phase.isLive = false) : events = [] := by
  cases step with
  | stop exchange reports phase counts silent idle rests quiet => rfl
  | _ => first | rfl | cases past

/-- So is a delivery that is not acknowledged. -/
theorem spurns (step : Step before exchange events after) :
    events.spurned + after.phase.isLive.toNat ≤ before.phase.isLive.toNat := by
  cases step with
  | stop exchange reports phase counts silent idle rests quiet =>
    rcases rests with rfl | rfl | rfl <;> simp
  | take exchange delivery counts silent hands => simpa using Bool.toNat_le _
  | _ => simp_all

theorem acked (step : Step before exchange events after) :
    after.counts.acked = before.counts.acked + UInt64.ofNat events.settled.length := by
  cases step with
  | wait exchange counts later silent idle same =>
    rcases same with rfl | rfl <;> exact (UInt64.add_zero _).symm
  | _ => simp [Counts.addAck, Counts.addDuplicate, Counts.addReceived]

theorem duplicates (step : Step before exchange events after) :
    after.counts.duplicates = before.counts.duplicates + UInt64.ofNat events.repeats := by
  cases step with
  | wait exchange counts later silent idle same =>
    rcases same with rfl | rfl <;> exact (UInt64.add_zero _).symm
  | _ => simp [Counts.addAck, Counts.addDuplicate, Counts.addReceived]

theorem received (step : Step before exchange events after) :
    after.counts.received + after.phase.uncounted =
      before.counts.received + before.phase.uncounted + UInt64.ofNat events.settled.length := by
  cases step with
  | wait exchange counts later silent idle same =>
    rcases same with rfl | rfl <;> exact (UInt64.add_zero _).symm
  | stop exchange reports phase counts silent idle rests quiet =>
    rcases rests with rfl | rfl | rfl <;> simp
  | _ => simp [Counts.addAck, Counts.addDuplicate, Counts.addReceived]

end Step

/-! ## What has happened so far -/

/-- Whatever has happened to a consumer is counted, noted and acknowledged, or is still to be. -/
structure Agrees (exchanges : List Exchange) (standing : Standing) : Prop where
  gain : ∀ gauge, (exchanges.map (Exchange.gain gauge)).sum + standing.dues gauge =
    (History.of exchanges).gain gauge
  noted : (History.of exchanges).carried =
    (History.of exchanges).noted ++ standing.phase.unnoted
  tried : (History.of exchanges).envelopes =
    (History.of exchanges).tried ++ standing.phase.untried
  fails : (History.of exchanges).failures = (History.of exchanges).endsInFailure.toNat
  live : standing.phase.isLive = true → (History.of exchanges).failures = 0
  spurns : (History.of exchanges).spurned + standing.phase.isLive.toNat ≤ 1
  acked : standing.counts.acked = UInt64.ofNat (History.of exchanges).settled.length
  duplicates : standing.counts.duplicates = UInt64.ofNat (History.of exchanges).repeats
  received : standing.counts.received + standing.phase.uncounted =
    UInt64.ofNat (History.of exchanges).settled.length

theorem Agrees.start : Agrees [] ⟨[], .between, {}⟩ where
  gain gauge := by simp [Standing.dues, History.of]
  noted := rfl
  tried := rfl
  fails := rfl
  live _ := rfl
  spurns := Nat.le_refl _
  acked := rfl
  duplicates := rfl
  received := rfl

theorem Agrees.step {exchanges : List Exchange} {before after : Standing} {exchange : Exchange}
    {events : History} (agrees : Agrees exchanges before)
    (step : Step before exchange events after) : Agrees (exchanges ++ [exchange]) after := by
  have hhistory : History.of (exchanges ++ [exchange]) = History.of exchanges ++ events := by
    rw [History.of_concat, step.event]
  constructor
  case gain =>
    intro gauge
    have hbefore := agrees.gain gauge
    have hstep := step.gain gauge
    rw [hhistory, History.gain_append, List.map_append, List.sum_append, List.map_singleton,
      List.sum_singleton]
    omega
  all_goals rw [hhistory]
  case noted =>
    rw [History.carried_append, agrees.noted, List.append_assoc, step.noted,
      History.noted_append, List.append_assoc]
  case tried =>
    rw [History.envelopes_append, agrees.tried, List.append_assoc, step.tried,
      History.tried_append, List.append_assoc]
  case fails =>
    cases hlive : before.phase.isLive with
    | false =>
      rw [step.events_eq_nil hlive, List.append_nil]
      exact agrees.fails
    | true =>
      rw [History.failures_append, agrees.live hlive, Nat.zero_add, ← step.event]
      cases exchange.event? with
      | none =>
        rw [Option.toList_none, List.append_nil, ← agrees.fails, agrees.live hlive]
        rfl
      | some event =>
        rw [Option.toList_some, History.failures_singleton, History.endsInFailure,
          List.getLast?_concat]
        rfl
  case live =>
    intro hlive
    have hstep := step.fails
    have hbefore := before.phase.isLive.toNat_le
    rw [hlive, Bool.toNat_true] at hstep
    rw [History.failures_append, agrees.live (Bool.toNat_eq_one.1 (by omega))]
    omega
  case spurns =>
    have hbefore := agrees.spurns
    have hstep := step.spurns
    rw [History.spurned_append]
    omega
  case acked =>
    rw [step.acked, agrees.acked, History.settled_append, List.length_append, UInt64.ofNat_add]
  case duplicates =>
    rw [step.duplicates, agrees.duplicates, History.repeats_append, UInt64.ofNat_add]
  case received =>
    rw [step.received, agrees.received, History.settled_append, List.length_append,
      UInt64.ofNat_add]

end Consumer
end BrokerLoad
