import BrokerLoad.Proofs.Broker.Serving

/-!
# Queues hand over in order, and once

What the journals of its queues mean for the callers of a hub, whatever calls it serves.

`queues_in_order` is about queues that are open.  The messages that were put into one, be it
by a write or because they went round again, are those that were handed over, in the order of
their tokens, and behind them those that are ready.  What was handed over is in one place: it
was read once, or is at one ticket.  Requests that had to wait are served in the order in
which they were parked, unless their reader closed.  And a ticket that was answered keeps its
answer.

`queues_sound` is about all queues that ever were.  No request waits while a message is
ready; nothing waits in a queue that was shut down, ever after; and no message is handed over
under a token that is still in use, so what is outstanding under a token is what was delivered
under it.
-/

namespace BrokerLoad
namespace Hub

/-- The deliveries of a queue: those that were read, and those that are there at tickets. -/
def deliveriesFrom (hub : Hub) (number : Nat) (chronicle : List Entry) : List Delivery :=
  takenFrom number chronicle ++ hub.arrivedFrom number

/-! ## Open queues -/

/-- A queue hands over in order, and once. -/
structure HandsOver (hub : Hub) (chronicle : List Entry) (number : Nat) (queue : Queue Bytes)
    (handed : List (Handover Bytes)) (served : List (Ticket × Handover Bytes)) : Prop where
  /-- What was handed over was read once, or is at one ticket. -/
  once : (handed.map (delivery number)).Perm (hub.deliveriesFrom number chronicle)
  /-- It was handed over in the order of tokens. -/
  tokens : handed.map Handover.token = wordsAfter 0 handed.length
  /-- What was put in was handed over, first one first, and the rest is ready. -/
  ordered : putInto number chronicle =
    handed.map Handover.payload ++ queue.ready.toList.map Message.data
  /-- The requests that had to wait, but for those whose reader closed, were served, first one
  first, and the rest is parked. -/
  lined : (parkedIn number chronicle).filter hub.unbroken =
    served.map Prod.fst ++ queue.parked.map Parked.ticket
  /-- They were served in the order in which messages were handed over. -/
  inTurn : (served.map Prod.snd).Sublist handed
  /-- What a request was served with is at its ticket. -/
  arrived : ∀ pair ∈ served, hub.awaited[pair.1]? = some (.arrived (delivery number pair.2))
  /-- What is parked is pending, and parked once. -/
  pending : (queue.parked.map Parked.ticket).Nodup ∧
    ∀ read ∈ queue.parked, hub.awaited[read.ticket]? = some .pending

/-- What is true of a hub at any time, as far as it has served calls and in view of those that
it will serve. -/
structure InOrder (hub : Hub) (chronicle : List Entry) : Prop where
  /-- Queues that are open hand over in order, and once. -/
  queues : ∀ {number : Nat} {queue : Queue Bytes}, hub.queues[number]? = some queue →
    queue.closed = false → ∃ handed served, hub.HandsOver chronicle number queue handed served
  /-- A ticket that was answered keeps its answer. -/
  answered : ∀ (more : List Call) {ticket : Ticket} {answer : Awaited},
    hub.awaited[ticket]? = some answer → answer ≠ .pending →
      (hub.after more).awaited[ticket]? = some answer
  /-- A ticket that is pending is parked in one queue. -/
  pending : ∀ {ticket : Ticket}, hub.awaited[ticket]? = some .pending →
    ∃! number : Nat, ∃ queue, hub.queues[number]? = some queue ∧
      ticket ∈ queue.parked.map Parked.ticket

theorem Agrees.handsOver {hub : Hub} {chronicle : List Entry} {number : Nat} {queue : Queue Bytes}
    {journal : Queue.Journal Bytes} (agrees : hub.Agrees chronicle number queue journal)
    (hopen : queue.closed = false) :
    hub.HandsOver chronicle number queue journal.handed journal.served where
  once := agrees.handed
  tokens := agrees.keeps.tokens
  ordered := agrees.put.symm.trans (agrees.keeps.ordered hopen)
  lined := agrees.waited.symm.trans (agrees.keeps.lined hopen)
  inTurn := agrees.keeps.inTurn
  arrived := agrees.served
  pending := ⟨agrees.keeps.nodup_tickets, agrees.parked⟩

theorem Tells.inOrder {hub : Hub} {chronicle : List Entry} (tells : hub.Tells chronicle) :
    hub.InOrder chronicle where
  queues hqueue hopen := by
    obtain ⟨journal, hagrees⟩ := tells.queues hqueue
    exact ⟨_, _, hagrees.handsOver hopen⟩
  answered more := (leads_after hub more chronicle tells).2.awaited
  pending hticket := by
    obtain ⟨number, queue, hqueue, hparked⟩ := tells.pending hticket
    obtain ⟨journal, hagrees⟩ := tells.queues hqueue
    refine ⟨number, ⟨queue, hqueue, hparked⟩, fun other hother => ?_⟩
    obtain ⟨queue', hqueue', hparked'⟩ := hother
    obtain ⟨journal', hagrees'⟩ := tells.queues hqueue'
    exact tells.apart (hagrees'.mem_parkedIn hparked') (hagrees.mem_parkedIn hparked)

/-- Open queues hand over in order and once, whatever calls a hub has served. -/
theorem queues_in_order (throttleEvery redeliverEvery : UInt32) (calls : List Call) :
    (Hub.after { throttleEvery, redeliverEvery } calls).InOrder
      (chronicle { throttleEvery, redeliverEvery } calls) :=
  (leads_after _ calls [] (tells_fresh throttleEvery redeliverEvery)).1.inOrder

/-- A request waits in a queue that makes a duplicate of every acknowledged message.  A write
serves it, and the duplicate goes to the reader that comes next. -/
example :
    let calls : List Call := [.createDestination { path := "orders" },
      .createGroup { destination := "orders", name := "billing" },
      .create (.publisher "orders"), .openHandle 0,
      .create (.consumer "orders" "billing" defaultPrefetch), .openHandle 1,
      .request 1, .write 0 [7], .ack { payload := [7], queue := 0, token := 1 }, .read 1]
    let hub : Hub := { redeliverEvery := 1 }
    putInto 0 (hub.chronicle calls) = [[7], [7]] ∧ parkedIn 0 (hub.chronicle calls) = [0] ∧
      takenFrom 0 (hub.chronicle calls) = [{ payload := [7], queue := 0, token := 2 }] ∧
      (hub.after calls).arrivedFrom 0 = [{ payload := [7], queue := 0, token := 1 }] := by
  decide +kernel

/-! ## All queues -/

/-- What is true of a queue at any time, open or not. -/
structure Sound (hub : Hub) (chronicle : List Entry) (number : Nat) (queue : Queue Bytes) :
    Prop where
  /-- No request waits while a message is ready. -/
  oneSided : queue.parked = [] ∨ queue.ready.toList = []
  /-- In a queue that was shut down nothing waits, ever after. -/
  shut : queue.closed = true → ∀ more : List Call, ∃ later : Queue Bytes,
    (hub.after more).queues[number]? = some later ∧
      later.closed = true ∧ later.parked = [] ∧ later.ready.toList = []
  /-- The tokens in use are below the next one. -/
  below : (hub.deliveriesFrom number chronicle).length < 2 ^ 32 →
    ∀ entry ∈ queue.unacked, entry.1 < queue.nextToken
  /-- A message that is handed over is stored under a new token, and the others are kept. -/
  fresh : (hub.deliveriesFrom number chronicle).length < 2 ^ 32 → ∀ message,
    (queue.deliver message).2.unacked =
      queue.unacked ++ [(queue.nextToken, { message with deliveries := message.deliveries + 1 })]
  /-- What is stored under a token was delivered under it, and was delivered at least once. -/
  stored : (hub.deliveriesFrom number chronicle).length < 2 ^ 32 →
    ∀ entry ∈ queue.unacked, 1 ≤ entry.2.deliveries ∧
      (∃ delivery ∈ hub.deliveriesFrom number chronicle, delivery.token = entry.1) ∧
      ∀ delivery ∈ hub.deliveriesFrom number chronicle, delivery.token = entry.1 →
        delivery.payload = entry.2.data

theorem Tells.sound {hub : Hub} {chronicle : List Entry} (tells : hub.Tells chronicle)
    {number : Nat} {queue : Queue Bytes} (hqueue : hub.queues[number]? = some queue) :
    hub.Sound chronicle number queue := by
  obtain ⟨journal, hagrees⟩ := tells.queues hqueue
  have hlength : (hub.deliveriesFrom number chronicle).length = journal.handed.length := by
    rw [deliveriesFrom, ← hagrees.handed.length_eq, List.length_map]
  have hroom : journal.handed.length < 2 ^ 32 → journal.handed.length + 1 < 2 ^ 64 := by omega
  refine {
    oneSided := hagrees.keeps.oneSided
    shut := fun hclosed more => ?_
    below := fun few entry hentry => hagrees.keeps.outstanding_lt (hroom (hlength ▸ few)) hentry
    fresh := fun few => hagrees.keeps.unacked_deliver (hroom (hlength ▸ few))
    stored := fun few entry hentry => ?_ }
  · obtain ⟨told, hprecedes⟩ := leads_after hub more chronicle tells
    obtain ⟨later, hlater, hstays⟩ := hprecedes.queues hqueue
    obtain ⟨journal', hagrees'⟩ := told.queues hlater
    exact ⟨later, hlater, hstays hclosed, hagrees'.keeps.shut (hstays hclosed)⟩
  · rw [hlength] at few
    have hhanded := hagrees.keeps.outstanding entry hentry
    have hcount : 1 ≤ entry.2.deliveries.toNat := (hagrees.keeps.delivered few entry hentry).1
    have hdelivered : ∀ delivery, delivery ∈ hub.deliveriesFrom number chronicle ↔
        ∃ handover ∈ journal.handed, Hub.delivery number handover = delivery := fun delivery =>
      hagrees.handed.mem_iff.symm.trans List.mem_map
    refine ⟨UInt32.le_iff_toNat_le.2 hcount, ⟨_, (hdelivered _).2 ⟨_, hhanded, rfl⟩, rfl⟩, ?_⟩
    intro delivery hdelivery htoken
    obtain ⟨handover, hmem, rfl⟩ := (hdelivered delivery).1 hdelivery
    have hsame := hagrees.keeps.eq_of_token_eq (by omega) hmem hhanded htoken
    rw [hsame]
    rfl

/-- Queues are sound, whatever calls a hub has served. -/
theorem queues_sound (throttleEvery redeliverEvery : UInt32) (calls : List Call) {number : Nat}
    {queue : Queue Bytes}
    (hqueue : (Hub.after { throttleEvery, redeliverEvery } calls).queues[number]? = some queue) :
    (Hub.after { throttleEvery, redeliverEvery } calls).Sound
      (chronicle { throttleEvery, redeliverEvery } calls) number queue :=
  (leads_after _ calls [] (tells_fresh throttleEvery redeliverEvery)).1.sound hqueue

/-- A request waits, a write serves it, and a second message becomes ready: what is outstanding
is the first, under the first token. -/
theorem queues_sound_one_served :
    let calls : List Call := [.createDestination { path := "orders" },
      .createGroup { destination := "orders", name := "billing" },
      .create (.publisher "orders"), .openHandle 0,
      .create (.consumer "orders" "billing" defaultPrefetch), .openHandle 1,
      .request 1, .write 0 [7], .write 0 [8]]
    ∃ queue, (Hub.after {} calls).queues[0]? = some queue ∧
      queue.unacked = [(1, { data := [7], deliveries := 1 })] ∧
      queue.ready.toList = [{ data := [8] }] ∧
      (Hub.after {} calls).deliveriesFrom 0 (chronicle {} calls) =
        [{ payload := [7], queue := 0, token := 1 }] ∧
      (Hub.after {} calls).Sound (chronicle {} calls) 0 queue := by
  intro calls
  have hqueue : (Hub.after {} calls).queues[0]? = some
      { maxDeliveries := 3, redeliverEvery := 0,
        ready := ⟨[], [{ data := [8] }], 1, rfl⟩
        unacked := [(1, { data := [7], deliveries := 1 })]
        nextToken := 2 } := by decide +kernel
  exact ⟨_, hqueue, rfl, rfl, by decide +kernel, queues_sound 0 0 calls hqueue⟩

end Hub
end BrokerLoad
