import BrokerLoad.Client.Call
import BrokerLoad.Proofs.Envelope
import BrokerLoad.Proofs.Ledger.Gauges

/-!
# Histories of consumers

What matters about a run of a consumer is which deliveries it was handed, which ids it noted,
and which deliveries it acknowledged.  As for producers, an `Event` is one such fact, and a
history is the list of them in order.  It is read off what was asked and answered alone
(`Exchange.event?`), so that both kinds of consumers are read alike, wherever they are in
their loops.

A call that fails is an event of its own, whether it is for a handle or for a delivery, unless
it ends in a fault that is no error; such a fault is the business of whoever runs the
consumer.  A delivery that is no envelope fails by being handed over.
-/

namespace BrokerLoad
namespace Consumer

/-- What happens to a consumer. -/
inductive Event where
  /-- A delivery was handed over. -/
  | handed (delivery : Delivery)
  /-- The id of a delivery was noted, as a new one or not. -/
  | noted (id : UInt64) (fresh : Bool)
  /-- It was to be acknowledged, and that is what came of it. -/
  | acked (delivery : Delivery) (reply : Except Fault Bool)
  /-- There was to be a handle or a delivery, and there is none. -/
  | failed

namespace Event

/-- The delivery handed over, if one was. -/
@[simp] def handed? : Event → Option Delivery
  | .handed delivery => some delivery
  | _ => none

/-- The id noted, if one was, and whether it was new. -/
@[simp] def note? : Event → Option (UInt64 × Bool)
  | .noted id fresh => some (id, fresh)
  | _ => none

/-- The id noted, if one was. -/
@[simp] def noted? : Event → Option UInt64
  | .noted id _ => some id
  | _ => none

/-- The delivery that was to be acknowledged, if one was. -/
@[simp] def tried? : Event → Option Delivery
  | .acked delivery _ => some delivery
  | _ => none

/-- The delivery that was acknowledged, if one was. -/
@[simp] def settled? : Event → Option Delivery
  | .acked delivery (.ok true) => some delivery
  | _ => none

/-- Whether an id was noted that had been noted before. -/
@[simp] def repeats : Event → Bool
  | .noted _ fresh => !fresh
  | _ => false

/-- Whether a delivery was to be acknowledged and was not. -/
@[simp] def spurns : Event → Bool
  | .acked _ (.ok accepted) => !accepted
  | .acked _ (.error _) => true
  | _ => false

/-- Whether it is the end of the consumer, by an error that is to be reported. -/
@[simp] def fails : Event → Bool
  | .handed delivery => delivery.payload.id?.isNone
  | .acked _ (.ok accepted) => !accepted
  | .acked _ (.error (.error _)) => true
  | .failed => true
  | _ => false

/-- How far an event moves a gauge on. -/
@[simp] def gain : Gauge → Event → Nat
  | .counter .messagesIn, .acked _ (.ok true) => 1
  | .counter .bytesIn, .acked delivery (.ok true) => delivery.payload.length.toUInt64.toNat
  | .counter .duplicates, event => event.repeats.toNat
  | .counter .receiveErrors, event => event.fails.toNat
  | .samples .read, .handed _ => 1
  | _, _ => 0

variable (event : Event)

/-- A delivery that was to be acknowledged was, or was not. -/
theorem length_tried? :
    event.tried?.toList.length = event.settled?.toList.length + event.spurns.toNat := by
  match event with
  | .acked _ (.ok true) => rfl
  | .acked _ (.ok false) | .acked _ (.error _) | .handed _ | .noted _ _ | .failed => rfl

/-- What was acknowledged is counted. -/
theorem gain_messagesIn : event.gain (.counter .messagesIn) = event.settled?.isSome.toNat := by
  match event with
  | .acked _ (.ok true) => rfl
  | .acked _ (.ok false) | .acked _ (.error _) | .handed _ | .noted _ _ | .failed => rfl

/-- So are its bytes, as far as words count them. -/
theorem ofNat_gain_bytesIn : UInt64.ofNat (event.gain (.counter .bytesIn)) =
    UInt64.ofNat (event.settled?.toList.map fun delivery => delivery.payload.length).sum := by
  match event with
  | .acked _ (.ok true) => exact UInt64.ofNat_toNat
  | .acked _ (.ok false) | .acked _ (.error _) | .handed _ | .noted _ _ | .failed => rfl

end Event

/-- What happened to a consumer, in order. -/
abbrev History : Type := List Event

namespace History

variable (history more : History) (event : Event)

/-- The deliveries handed over. -/
def handed : List Delivery := history.filterMap Event.handed?

/-- Those of them that are envelopes. -/
def envelopes : List Delivery := history.handed.filter fun delivery => delivery.payload.id?.isSome

/-- The ids that these carry. -/
def carried : List UInt64 := history.handed.filterMap fun delivery => delivery.payload.id?

/-- The ids noted, and whether they were new. -/
def notes : List (UInt64 × Bool) := history.filterMap Event.note?

/-- The ids noted. -/
def noted : List UInt64 := history.filterMap Event.noted?

/-- The deliveries that were to be acknowledged. -/
def tried : List Delivery := history.filterMap Event.tried?

/-- Those that were acknowledged. -/
def settled : List Delivery := history.filterMap Event.settled?

/-- How many ids were noted that had been noted before. -/
def repeats : Nat := history.countP Event.repeats

/-- How many deliveries were to be acknowledged and were not. -/
def spurned : Nat := history.countP Event.spurns

/-- How many events are errors to be reported. -/
def failures : Nat := history.countP Event.fails

/-- Whether such an error is the last that has happened. -/
def endsInFailure : Bool := history.getLast?.any Event.fails

/-- How far a history moves a gauge on. -/
def gain (gauge : Gauge) : Nat := (history.map (Event.gain gauge)).sum

@[simp] theorem handed_nil : handed [] = [] := rfl

@[simp] theorem envelopes_nil : envelopes [] = [] := rfl

@[simp] theorem carried_nil : carried [] = [] := rfl

@[simp] theorem notes_nil : notes [] = [] := rfl

@[simp] theorem noted_nil : noted [] = [] := rfl

@[simp] theorem tried_nil : tried [] = [] := rfl

@[simp] theorem settled_nil : settled [] = [] := rfl

@[simp] theorem repeats_nil : repeats [] = 0 := rfl

@[simp] theorem spurned_nil : spurned [] = 0 := rfl

@[simp] theorem failures_nil : failures [] = 0 := rfl

@[simp] theorem gain_nil (gauge : Gauge) : gain [] gauge = 0 := rfl

@[simp] theorem handed_append : handed (history ++ more) = history.handed ++ more.handed :=
  List.filterMap_append

@[simp] theorem envelopes_append :
    envelopes (history ++ more) = history.envelopes ++ more.envelopes := by
  rw [envelopes, handed_append, List.filter_append, envelopes, envelopes]

@[simp] theorem carried_append : carried (history ++ more) = history.carried ++ more.carried := by
  rw [carried, handed_append, List.filterMap_append, carried, carried]

@[simp] theorem notes_append : notes (history ++ more) = history.notes ++ more.notes :=
  List.filterMap_append

@[simp] theorem noted_append : noted (history ++ more) = history.noted ++ more.noted :=
  List.filterMap_append

@[simp] theorem tried_append : tried (history ++ more) = history.tried ++ more.tried :=
  List.filterMap_append

@[simp] theorem settled_append : settled (history ++ more) = history.settled ++ more.settled :=
  List.filterMap_append

@[simp] theorem repeats_append : repeats (history ++ more) = history.repeats + more.repeats :=
  List.countP_append

@[simp] theorem spurned_append : spurned (history ++ more) = history.spurned + more.spurned :=
  List.countP_append

@[simp] theorem failures_append : failures (history ++ more) = history.failures + more.failures :=
  List.countP_append

@[simp] theorem gain_append (gauge : Gauge) :
    gain (history ++ more) gauge = history.gain gauge + more.gain gauge := by
  rw [gain, List.map_append, List.sum_append, gain, gain]

@[simp] theorem handed_singleton : handed [event] = event.handed?.toList := by
  rw [handed, List.filterMap_cons]
  cases event.handed? <;> rfl

@[simp] theorem envelopes_singleton : envelopes [event] =
    event.handed?.toList.filter fun delivery => delivery.payload.id?.isSome := by
  rw [envelopes, handed_singleton]

@[simp] theorem carried_singleton :
    carried [event] = (event.handed?.bind fun delivery => delivery.payload.id?).toList := by
  rw [carried, handed_singleton]
  cases event.handed? with
  | none => rfl
  | some delivery =>
    rw [Option.toList_some, List.filterMap_cons, Option.bind_some]
    cases delivery.payload.id? <;> rfl

@[simp] theorem notes_singleton : notes [event] = event.note?.toList := by
  rw [notes, List.filterMap_cons]
  cases event.note? <;> rfl

@[simp] theorem noted_singleton : noted [event] = event.noted?.toList := by
  rw [noted, List.filterMap_cons]
  cases event.noted? <;> rfl

@[simp] theorem tried_singleton : tried [event] = event.tried?.toList := by
  rw [tried, List.filterMap_cons]
  cases event.tried? <;> rfl

@[simp] theorem settled_singleton : settled [event] = event.settled?.toList := by
  rw [settled, List.filterMap_cons]
  cases event.settled? <;> rfl

@[simp] theorem repeats_singleton : repeats [event] = event.repeats.toNat := by
  rw [repeats, List.countP_singleton]
  cases event.repeats <;> rfl

@[simp] theorem spurned_singleton : spurned [event] = event.spurns.toNat := by
  rw [spurned, List.countP_singleton]
  cases event.spurns <;> rfl

@[simp] theorem failures_singleton : failures [event] = event.fails.toNat := by
  rw [failures, List.countP_singleton]
  cases event.fails <;> rfl

@[simp] theorem gain_singleton (gauge : Gauge) : gain [event] gauge = event.gain gauge :=
  Nat.add_zero _

theorem map_fst_notes : history.notes.map Prod.fst = history.noted := by
  rw [notes, noted, List.map_filterMap]
  exact List.filterMap_congr fun event _ => by cases event <;> rfl

theorem repeats_eq : history.repeats = history.notes.countP fun note => !note.2 := by
  rw [repeats, notes, List.countP_filterMap]
  exact List.countP_congr fun event _ => by cases event <;> simp

/-- What was to be acknowledged was, or was not. -/
theorem length_tried : history.tried.length = history.settled.length + history.spurned := by
  induction history using List.reverseRecOn with
  | nil => rfl
  | append_singleton history event ih =>
    rw [tried_append, settled_append, spurned_append, List.length_append, List.length_append, ih,
      tried_singleton, settled_singleton, spurned_singleton, event.length_tried?]
    omega

/-! ## What the shared counters learn -/

/-- A gauge that every event of some kind moves on by one, and no other event. -/
theorem gain_eq_countP {gauge : Gauge} {moves : Event → Bool}
    (each : ∀ event, Event.gain gauge event = (moves event).toNat) :
    history.gain gauge = history.countP moves := by
  induction history using List.reverseRecOn with
  | nil => rfl
  | append_singleton history event ih =>
    rw [gain_append, ih, List.countP_append, gain_singleton, each, List.countP_singleton]
    cases moves event <;> rfl

theorem gain_messagesIn : history.gain (.counter .messagesIn) = history.settled.length := by
  rw [settled, List.length_filterMap_eq_countP]
  exact history.gain_eq_countP Event.gain_messagesIn

/-- The bytes of the acknowledged deliveries, as far as words count them. -/
theorem ofNat_gain_bytesIn : UInt64.ofNat (history.gain (.counter .bytesIn)) =
    UInt64.ofNat (history.settled.map fun delivery => delivery.payload.length).sum := by
  induction history using List.reverseRecOn with
  | nil => rfl
  | append_singleton history event ih =>
    rw [gain_append, UInt64.ofNat_add, ih, settled_append, List.map_append, List.sum_append,
      UInt64.ofNat_add, gain_singleton, settled_singleton, event.ofNat_gain_bytesIn]

theorem gain_duplicates : history.gain (.counter .duplicates) = history.repeats :=
  history.gain_eq_countP fun _ => rfl

theorem gain_receiveErrors : history.gain (.counter .receiveErrors) = history.failures :=
  history.gain_eq_countP fun _ => rfl

theorem gain_reads : history.gain (.samples .read) = history.handed.length := by
  rw [handed, List.length_filterMap_eq_countP]
  exact history.gain_eq_countP fun event => by cases event <;> rfl

end History
end Consumer

/-- What a call that ends in a fault means for the deliveries of a consumer. -/
def Fault.event? : Fault → Option Consumer.Event
  | .error _ => some .failed
  | .foreign => none

/-- What an exchange means for them. -/
def Exchange.event? : Exchange → Option Consumer.Event
  | ⟨.note id, fresh⟩ => some (.noted id fresh)
  | ⟨.broker (.create _), .error fault⟩ => fault.event?
  | ⟨.broker (.openHandle _), .error fault⟩ => fault.event?
  | ⟨.broker (.request _), .ok none⟩ => some .failed
  | ⟨.broker (.request _), .error fault⟩ => fault.event?
  | ⟨.broker (.takeDelivery _), .ok none⟩ => some .failed
  | ⟨.broker (.takeDelivery _), .ok (some delivery)⟩ => some (.handed delivery)
  | ⟨.broker (.takeDelivery _), .error fault⟩ => fault.event?
  | ⟨.broker (.read _), .ok (some delivery)⟩ => some (.handed delivery)
  | ⟨.broker (.read _), .error fault⟩ => fault.event?
  | ⟨.broker (.ack delivery), reply⟩ => some (.acked delivery reply)
  | _ => none

/-- The history of a consumer that has asked so much and was told so. -/
def Consumer.History.of (exchanges : List Exchange) : History :=
  exchanges.filterMap Exchange.event?

@[simp] theorem Consumer.History.of_append (exchanges more : List Exchange) :
    of (exchanges ++ more) = of exchanges ++ of more :=
  List.filterMap_append

@[simp] theorem Consumer.History.of_concat (exchanges : List Exchange) (exchange : Exchange) :
    of (exchanges ++ [exchange]) = of exchanges ++ exchange.event?.toList := by
  rw [of, List.filterMap_append, List.filterMap_cons, of]
  cases exchange.event? <;> rfl

end BrokerLoad
