import BrokerLoad.Proofs.Broker.Attempts
import BrokerLoad.Proofs.Broker.Mooring

/-!
# Closing is final

A hub that was closed does nothing any more, whatever is asked of it and by whomever, and the same
is true of the queue of a group that was deleted, by itself or together with its destination, for
those who still hold it.

* What is asked is declined (`Hub.Declines`): administrative calls, handles, opening, writing and
  reading.  There is no backlog.
* A request that was waiting has found out that there is nothing to come.
* No message moves (`HubCounts.IsStill`).  What was outstanding can be settled late, and that is
  all that can still happen in a queue that is over (`Queue.Event.IsLast`).

A queue is *over* when it was shut down: nothing is ready in it, no read is parked, and it stays so
(`Queue.IsOver`).  A hub that is closed has no other queues, since an open queue can be reached in
an open hub (`Hub.IsMoored`).
-/

namespace BrokerLoad
namespace Queue

variable {δ : Type} {q : Queue δ}

/-! ## Queues that are over -/

/-- A queue that was shut down. -/
structure IsOver (q : Queue δ) : Prop where
  closed : q.closed = true
  parked : q.parked = []
  ready : q.ready.toList = []

/-- What can happen in such a queue: a delivery is settled, and its message is gone for good. -/
inductive Event.IsLast : Event δ → Prop
  | acked (token : UInt64) (data : δ) : IsLast (.acked token data .done)
  | nacked (token : UInt64) (data : δ) : IsLast (.nacked token data .done)

/-- A queue before, and over: nothing has become outstanding since. -/
structure Wanes (q after : Queue δ) : Prop where
  ended : after.IsOver
  unacked : after.unacked.Sublist q.unacked

theorem Wanes.trans {between after : Queue δ} (first : q.Wanes between)
    (second : between.Wanes after) : q.Wanes after :=
  ⟨second.ended, second.unacked.trans first.unacked⟩

theorem ack_of_closed (closed : q.closed = true) (token : UInt64) : q.ack token =
    (q.find? token).map fun _ => (.done, { q.settle token with acks := q.acks + 1 }) := by
  simp [ack, settle, closed]

theorem nack_of_closed (closed : q.closed = true) (token : UInt64) :
    q.nack token = (q.find? token).map fun _ => (.done, q.settle token) := by
  simp [nack, settle, closed]

namespace IsOver

variable (ended : q.IsOver)
include ended

theorem wanes : q.Wanes q := ⟨ended, .refl _⟩

/-- A delivery is settled. -/
theorem settle (token acks : UInt64) :
    q.Wanes { q.settle token with acks := acks } :=
  ⟨⟨ended.closed, ended.parked, ended.ready⟩, List.filter_sublist⟩

/-- What is put in is lost. -/
theorem perform_put (data : δ) : q.perform (.put data) = q := by
  rw [Queue.perform, push, if_pos ended.closed]

/-- Whatever is done, the queue stays over, and at most a delivery is settled. -/
theorem perform (act : Act δ) :
    q.Wanes (q.perform act) ∧ ∀ event ∈ q.events act, event.IsLast := by
  cases act with
  | put data =>
    rw [ended.perform_put, events, push, if_pos ended.closed, ended.closed]
    exact ⟨ended.wanes, List.forall_mem_nil _⟩
  | read =>
    have hread : q.read = (none, q) := by rw [read, if_pos ended.closed]
    rw [Queue.perform, events, hread]
    exact ⟨ended.wanes, List.forall_mem_nil _⟩
  | request reader ticket =>
    have hrequest : q.request reader ticket = (.answered none, q) := by
      rw [request, if_pos ended.closed]
    rw [Queue.perform, events, hrequest]
    exact ⟨ended.wanes, List.forall_mem_nil _⟩
  | ack token =>
    rw [Queue.perform, events, ack_of_closed ended.closed]
    cases q.find? token with
    | none => exact ⟨ended.wanes, List.forall_mem_nil _⟩
    | some message =>
      refine ⟨ended.settle token (q.acks + 1), fun event hevent => ?_⟩
      rw [List.mem_singleton.1 hevent]
      exact .acked token message.data
  | nack token =>
    rw [Queue.perform, events, nack_of_closed ended.closed]
    cases q.find? token with
    | none => exact ⟨ended.wanes, List.forall_mem_nil _⟩
    | some message =>
      refine ⟨ended.settle token q.acks, fun event hevent => ?_⟩
      rw [List.mem_singleton.1 hevent]
      exact .nacked token message.data
  | drop reader =>
    have hparked : q.parked.filter (fun read => read.reader ≠ reader) = [] := by
      rw [ended.parked, List.filter_nil]
    exact ⟨⟨⟨ended.closed, hparked, ended.ready⟩, .refl _⟩, List.forall_mem_nil _⟩
  | shutDown => exact ⟨⟨⟨rfl, rfl, rfl⟩, .refl _⟩, List.forall_mem_nil _⟩

/-- So it is however much is done. -/
theorem performAll (acts : List (Act δ)) :
    q.Wanes (q.performAll acts) ∧ ∀ event ∈ q.story acts, event.IsLast := by
  refine performAll_induction (P := fun later told =>
    q.Wanes later ∧ ∀ event ∈ told, event.IsLast) [] ⟨ended.wanes, nofun⟩ acts ?_
  rintro later told act - ⟨hwanes, htold⟩
  obtain ⟨hnext, hevents⟩ := hwanes.ended.perform act
  exact ⟨hwanes.trans hnext, List.forall_mem_append.2 ⟨htold, hevents⟩⟩

theorem performAll_put (count : Nat) (data : δ) :
    q.performAll (List.replicate count (.put data)) = q := by
  induction count with
  | zero => rfl
  | succ count ih => rw [List.replicate_succ, performAll_cons, ended.perform_put, ih]

end IsOver
end Queue

/-- What counts messages on their way has not moved. -/
structure HubCounts.IsStill (before after : HubCounts) : Prop where
  accepted : after.accepted = before.accepted
  throttled : after.throttled = before.throttled
  deliveries : after.deliveries = before.deliveries
  redeliveries : after.redeliveries = before.redeliveries
  deadLettered : after.deadLettered = before.deadLettered

theorem HubCounts.IsStill.refl (counts : HubCounts) : counts.IsStill counts :=
  ⟨rfl, rfl, rfl, rfl, rfl⟩

theorem HubCounts.IsStill.trans {before between after : HubCounts} (first : before.IsStill between)
    (second : between.IsStill after) : before.IsStill after where
  accepted := second.accepted.trans first.accepted
  throttled := second.throttled.trans first.throttled
  deliveries := second.deliveries.trans first.deliveries
  redeliveries := second.redeliveries.trans first.redeliveries
  deadLettered := second.deadLettered.trans first.deadLettered

namespace Hub

open Queue (Act Event)

/-! ## At a queue that is over -/

/-- A late attempt at settling a delivery. -/
structure SettlesLate (hub : Hub) (delivery : Delivery) (attempt : Bool × Hub) : Prop where
  /-- One that fails changes nothing. -/
  fails : attempt.1 = false → attempt.2 = hub
  /-- One that succeeds takes a delivery away that was outstanding, and does no more. -/
  succeeds : attempt.1 = true → ∃ (queue : Queue Bytes) (message : Message Bytes) (acks : UInt64),
    hub.queues[delivery.queue]? = some queue ∧ queue.find? delivery.token = some message ∧
      attempt.2.queues =
        hub.queues.setIfInBounds delivery.queue { queue.settle delivery.token with acks := acks }
  still : hub.counts.IsStill attempt.2.counts
  awaited : attempt.2.awaited = hub.awaited
  receipts : attempt.2.receipts = hub.receipts

section Late

variable {hub : Hub} {delivery : Delivery}

theorem SettlesLate.nothing (hub : Hub) (delivery : Delivery) :
    hub.SettlesLate delivery (false, hub) :=
  ⟨fun _ => rfl, nofun, .refl _, rfl, rfl⟩

theorem settlesLate_ack (closed : ∀ {queue : Queue Bytes},
    hub.queues[delivery.queue]? = some queue → queue.closed = true) :
    hub.SettlesLate delivery (hub.ack delivery) := by
  rw [ack]
  cases hqueue : hub.queueOf? delivery with
  | none => exact .nothing hub delivery
  | some queue =>
    have hfound := found_of_queueOf? hqueue
    rw [Option.bind_some, Queue.ack_of_closed (closed hfound)]
    cases hfind : queue.find? delivery.token with
    | none => exact .nothing hub delivery
    | some message =>
      refine ⟨fun hfails => ?_, fun _ => ⟨queue, message, _, hfound, hfind, rfl⟩,
        ⟨rfl, rfl, rfl, rfl, rfl⟩, rfl, rfl⟩
      cases hfails

theorem settlesLate_nack (closed : ∀ {queue : Queue Bytes},
    hub.queues[delivery.queue]? = some queue → queue.closed = true) :
    hub.SettlesLate delivery (hub.nack delivery) := by
  rw [nack]
  cases hqueue : hub.queueOf? delivery with
  | none => exact .nothing hub delivery
  | some queue =>
    have hfound := found_of_queueOf? hqueue
    rw [Option.bind_some, Queue.nack_of_closed (closed hfound)]
    cases hfind : queue.find? delivery.token with
    | none => exact .nothing hub delivery
    | some message =>
      refine ⟨fun hfails => ?_, fun _ => ⟨queue, message, queue.acks, hfound, hfind, rfl⟩,
        ⟨rfl, rfl, rfl, rfl, rfl⟩, rfl, rfl⟩
      cases hfails

variable {handle : Handle}

/-- A reader finds nothing, now or later. -/
theorem read_of_closed (closed : ∀ {number : Nat} {queue : Queue Bytes} {reader : UInt64},
    hub.heldQueue? handle = some (number, queue, reader) → queue.closed = true) :
    hub.read handle = (none, hub) := by
  rw [read]
  cases hheld : hub.heldQueue? handle with
  | none => rfl
  | some held =>
    obtain ⟨number, queue, reader⟩ := held
    dsimp only
    rw [Queue.read, if_pos (closed hheld)]

theorem request_of_closed (closed : ∀ {number : Nat} {queue : Queue Bytes} {reader : UInt64},
    hub.heldQueue? handle = some (number, queue, reader) → queue.closed = true) :
    hub.request handle = hub.ticketFor .nothing := by
  rw [request]
  cases hheld : hub.heldQueue? handle with
  | none => rfl
  | some held =>
    obtain ⟨number, queue, reader⟩ := held
    dsimp only
    rw [Queue.request, if_pos (closed hheld)]

end Late

/-! ## Hubs that are over -/

/-- A hub that was closed. -/
structure IsOver (hub : Hub) : Prop where
  closed : hub.closed = true
  queues : ∀ {number : Nat} {queue : Queue Bytes}, hub.queues[number]? = some queue → queue.IsOver

/-- What such a hub answers. -/
structure Declines (hub : Hub) : Prop where
  createDestination : ∀ destination, hub.createDestination destination = (.closed, hub)
  createGroup : ∀ group, hub.createGroup group = (.closed, hub)
  deleteGroup : ∀ path name, hub.deleteGroup path name = (.closed, hub)
  deleteDestination : ∀ path, hub.deleteDestination path = (.closed, hub)
  /-- No handle is handed out. -/
  create : ∀ role, hub.create role = (none, hub)
  openHandle : ∀ handle, (hub.openHandle handle).1 = false
  write : ∀ handle data, (hub.write handle data).1.status = .failed
  /-- A submission fails as well, and its receipt goes on saying so. -/
  submit : ∀ handle data, ∃ receipt : Receipt, receipt.status = .failed ∧
    ∀ later, ((hub.submit handle data).2.afterAll later).receipt (hub.submit handle data).1 =
      .ok receipt
  read : ∀ handle, hub.read handle = (none, hub)
  /-- A request is answered that there is nothing, and so it stays. -/
  request : ∀ handle later,
    ((hub.request handle).2.afterAll later).take (hub.request handle).1 = .ok none
  /-- No request is waiting. -/
  waiting : ∀ {number : Nat} {queue : Queue Bytes}, hub.queues[number]? = some queue →
    queue.parked = []
  backlog : ∀ path group, hub.backlog path group = 0
  ack : ∀ delivery, hub.SettlesLate delivery (hub.ack delivery)
  nack : ∀ delivery, hub.SettlesLate delivery (hub.nack delivery)

/-- What becomes of a hub after it was closed: no message moves, and what is outstanding was
outstanding then.  Tickets keep what they have. -/
structure Lingers (shut after : Hub) : Prop where
  still : shut.counts.IsStill after.counts
  queues : ∀ {number : Nat} {queue : Queue Bytes}, after.queues[number]? = some queue →
    ∃ earlier, shut.queues[number]? = some earlier ∧ earlier.Wanes queue
  awaited : ∀ {ticket : Ticket} {answer : Awaited}, shut.awaited[ticket]? = some answer →
    after.awaited[ticket]? = some answer
  receipts : ∀ {ticket : Ticket} {receipt : Receipt}, shut.receipts[ticket]? = some receipt →
    after.receipts[ticket]? = some receipt

theorem Lingers.trans {shut between after : Hub} (first : shut.Lingers between)
    (second : between.Lingers after) : shut.Lingers after where
  still := first.still.trans second.still
  queues hqueue := by
    obtain ⟨middle, hmiddle, hlast⟩ := second.queues hqueue
    obtain ⟨earlier, hearlier, hfirst⟩ := first.queues hmiddle
    exact ⟨earlier, hearlier, hfirst.trans hlast⟩
  awaited := second.awaited ∘ first.awaited
  receipts := second.receipts ∘ first.receipts

/-- What a call leaves at the tickets and in the counts of a hub that is closed. -/
structure Idles (before after : Hub) : Prop where
  closed : after.closed = before.closed
  still : before.counts.IsStill after.counts
  awaited : ∀ {ticket : Ticket} {answer : Awaited}, before.awaited[ticket]? = some answer →
    after.awaited[ticket]? = some answer
  receipts : ∀ {ticket : Ticket} {receipt : Receipt}, before.receipts[ticket]? = some receipt →
    after.receipts[ticket]? = some receipt

namespace Idles

variable {before between after : Hub}

theorem of_eq (hclosed : after.closed = before.closed)
    (hstill : before.counts.IsStill after.counts) (hawaited : after.awaited = before.awaited)
    (hreceipts : after.receipts = before.receipts) : before.Idles after :=
  ⟨hclosed, hstill, fun h => hawaited ▸ h, fun h => hreceipts ▸ h⟩

theorem refl (hub : Hub) : hub.Idles hub := of_eq rfl (.refl _) rfl rfl

theorem trans (first : before.Idles between) (second : between.Idles after) :
    before.Idles after where
  closed := second.closed.trans first.closed
  still := first.still.trans second.still
  awaited := second.awaited ∘ first.awaited
  receipts := second.receipts ∘ first.receipts

theorem putHandle (hub : Hub) (handle : Handle) (state : HandleState) :
    hub.Idles (hub.putHandle handle state) := of_eq rfl (.refl _) rfl rfl

end Idles

namespace IsOver

variable {hub : Hub} (ended : hub.IsOver)
include ended

theorem closed_of_heldQueue? {handle : Handle} {number : Nat} {queue : Queue Bytes}
    {reader : UInt64} (hheld : hub.heldQueue? handle = some (number, queue, reader)) :
    queue.closed = true :=
  (ended.queues (found_of_heldQueue? hheld)).closed

/-! ### Calls -/

theorem write (handle : Handle) (data : Bytes) : (hub.write handle data).1.status = .failed ∧
    hub.Idles (hub.write handle data).2 := by
  rcases hub.write_cases handle data with ⟨path, -, hwrite⟩ | ⟨-, hstatus, hsame⟩
  · rw [hwrite, publish, if_pos ended.closed]
    exact ⟨rfl, .of_eq rfl ⟨rfl, rfl, rfl, rfl, rfl⟩ rfl rfl⟩
  · rw [hsame]
    exact ⟨hstatus, .refl hub⟩

theorem openHandle (handle : Handle) : (hub.openHandle handle).1 = false ∧
    hub.Idles (hub.openHandle handle).2 := by
  rw [Hub.openHandle]
  split
  · rw [if_neg (by simp [hasDestination, ended.closed])]
    exact ⟨rfl, .putHandle hub handle _⟩
  · rw [queueNumber?, if_pos ended.closed]
    exact ⟨rfl, .putHandle hub handle _⟩
  · exact ⟨rfl, .refl hub⟩

/-- No read is dropped, since none is parked. -/
theorem closeHandle (handle : Handle) : hub.Idles (hub.closeHandle handle) := by
  rw [Hub.closeHandle]
  split
  · exact .putHandle hub handle _
  next path group reader number error hhandle =>
    refine Idles.trans ?_ (.putHandle _ handle _)
    rw [dropReads]
    split
    · exact .refl hub
    next queue hfound =>
      have hnone : (queue.drop reader).1 = [] := by
        rw [Queue.drop, (ended.queues hfound).parked]
        rfl
      dsimp only
      rw [hnone]
      exact .of_eq rfl (.refl _) rfl rfl
  · exact .refl hub

theorem declines_admin : (∀ destination, hub.createDestination destination = (.closed, hub)) ∧
    (∀ group, hub.createGroup group = (.closed, hub)) ∧
    (∀ path name, hub.deleteGroup path name = (.closed, hub)) ∧
    ∀ path, hub.deleteDestination path = (.closed, hub) :=
  ⟨fun _ => if_pos ended.closed, fun _ => if_pos ended.closed, fun _ _ => if_pos ended.closed,
    fun _ => if_pos ended.closed⟩

theorem create_eq (role : Role) : hub.create role = (none, hub) := if_pos ended.closed

theorem close_eq : hub.close = hub := if_pos ended.closed

theorem submit (handle : Handle) (data : Bytes) : hub.Idles (hub.submit handle data).2 := by
  refine (ended.write handle data).2.trans ⟨rfl, .refl _, id, fun {ticket receipt} hreceipt => ?_⟩
  have hlt := (Array.getElem?_eq_some_iff.1 hreceipt).1
  show ((hub.write handle data).2.receipts.push _)[ticket]? = _
  rw [Array.getElem?_push, if_neg (Nat.ne_of_lt hlt), hreceipt]

theorem request (handle : Handle) : hub.Idles (hub.request handle).2 := by
  rw [request_of_closed ended.closed_of_heldQueue?]
  refine ⟨rfl, .refl _, fun {ticket answer} hanswer => ?_, id⟩
  have hlt := (Array.getElem?_eq_some_iff.1 hanswer).1
  show (hub.awaited.push _)[ticket]? = _
  rw [Array.getElem?_push, if_neg (Nat.ne_of_lt hlt), hanswer]

/-- Whatever is asked, nothing comes of it. -/
theorem idles (call : Call) : hub.Idles (hub.serve call).client := by
  obtain ⟨hcreateDestination, hcreateGroup, hdeleteGroup, hdeleteDestination⟩ :=
    ended.declines_admin
  have hsame : ∀ {after : Hub}, after = hub → hub.Idles after := fun h => h ▸ .refl hub
  have hlate : ∀ {delivery : Delivery} {attempt : Bool × Hub}, attempt.2.closed = hub.closed →
      hub.SettlesLate delivery attempt → hub.Idles attempt.2 := fun hclosed hattempt =>
    .of_eq hclosed hattempt.still hattempt.awaited hattempt.receipts
  cases call with
  | createDestination destination => exact hsame (congrArg Prod.snd (hcreateDestination _))
  | createGroup group => exact hsame (congrArg Prod.snd (hcreateGroup _))
  | deleteGroup path name => exact hsame (congrArg Prod.snd (hdeleteGroup _ _))
  | deleteDestination path => exact hsame (congrArg Prod.snd (hdeleteDestination _))
  | shutDown => exact hsame ended.close_eq
  | create role => exact hsame (congrArg Prod.snd (ended.create_eq role))
  | openHandle handle => exact (ended.openHandle handle).2
  | closeHandle handle => exact ended.closeHandle handle
  | release handle => exact (ended.closeHandle handle).trans (.putHandle _ handle _)
  | submit handle data => exact ended.submit handle data
  | write handle data => exact (ended.write handle data).2
  | request handle => exact ended.request handle
  | read handle =>
    exact hsame (congrArg Prod.snd (read_of_closed ended.closed_of_heldQueue?))
  | ack delivery =>
    exact hlate (congrArg Desk.closed (desk_ack hub delivery))
      (settlesLate_ack fun h => (ended.queues h).closed)
  | nack delivery =>
    exact hlate (congrArg Desk.closed (desk_nack hub delivery))
      (settlesLate_nack fun h => (ended.queues h).closed)
  | lastError | receiptReady | takeReceipt | deliveryReady | takeDelivery => exact .refl hub

/-- The queues are over, and stay so. -/
theorem lingers_serve (call : Call) :
    (hub.serve call).client.IsOver ∧ hub.Lingers (hub.serve call).client := by
  have hidles := ended.idles call
  have hqueues : ∀ {number : Nat} {queue : Queue Bytes},
      (hub.serve call).client.queues[number]? = some queue →
        ∃ earlier, hub.queues[number]? = some earlier ∧ earlier.Wanes queue := by
    intro number queue hqueue
    by_cases hgroup : ∃ group, call = .createGroup group
    · obtain ⟨group, rfl⟩ := hgroup
      have hsame : (hub.serve (.createGroup group)).client = hub :=
        congrArg Prod.snd (ended.declines_admin.2.1 group)
      rw [hsame] at hqueue
      exact ⟨queue, hqueue, (ended.queues hqueue).wanes⟩
    · rw [queues_serve_of_ne hub fun group heq => hgroup ⟨group, heq⟩] at hqueue
      obtain ⟨earlier, hearlier, rfl⟩ := Option.map_eq_some_iff.1 hqueue
      exact ⟨earlier, hearlier, ((ended.queues hearlier).performAll _).1⟩
  refine ⟨⟨hidles.closed.trans ended.closed, fun hqueue => ?_⟩,
    ⟨hidles.still, hqueues, hidles.awaited, hidles.receipts⟩⟩
  obtain ⟨earlier, -, hwanes⟩ := hqueues hqueue
  exact hwanes.ended

theorem lingers_operate (operation : Operation) :
    (hub.operate operation).IsOver ∧ hub.Lingers (hub.operate operation) := by
  cases operation with
  | serve call => exact ended.lingers_serve call
  | disown =>
    have hsame : hub.disown = { hub with owned := false } := by rw [disown, ended.close_eq]
    rw [operate, hsame]
    exact ⟨⟨ended.closed, ended.queues⟩,
      ⟨.refl _, fun hqueue => ⟨_, hqueue, (ended.queues hqueue).wanes⟩, id, id⟩⟩

/-- So it is however much is done with the hub. -/
theorem lingers_afterAll (later : List Operation) :
    (hub.afterAll later).IsOver ∧ hub.Lingers (hub.afterAll later) := by
  induction later generalizing hub with
  | nil => exact ⟨ended, .refl _, fun hqueue => ⟨_, hqueue, (ended.queues hqueue).wanes⟩, id, id⟩
  | cons operation rest ih =>
    obtain ⟨hover, hlingers⟩ := ended.lingers_operate operation
    obtain ⟨hlast, hrest⟩ := ih hover
    exact ⟨hlast, hlingers.trans hrest⟩

theorem declines : hub.Declines where
  createDestination := ended.declines_admin.1
  createGroup := ended.declines_admin.2.1
  deleteGroup := ended.declines_admin.2.2.1
  deleteDestination := ended.declines_admin.2.2.2
  create := ended.create_eq
  openHandle handle := (ended.openHandle handle).1
  write handle data := (ended.write handle data).1
  submit handle data := by
    refine ⟨(hub.write handle data).1, (ended.write handle data).1, fun later => ?_⟩
    have hover : (hub.submit handle data).2.IsOver := (ended.lingers_serve (.submit handle data)).1
    have hreceipt : (hub.submit handle data).2.receipts[(hub.submit handle data).1]? =
        some (hub.write handle data).1 := by
      simp [Hub.submit]
    rw [receipt, (hover.lingers_afterAll later).2.receipts hreceipt]
  read handle := read_of_closed ended.closed_of_heldQueue?
  request handle later := by
    have hover : (hub.request handle).2.IsOver := (ended.lingers_serve (.request handle)).1
    have hanswer : (hub.request handle).2.awaited[(hub.request handle).1]? = some .nothing := by
      rw [request_of_closed ended.closed_of_heldQueue?]
      simp [ticketFor]
    rw [take, (hover.lingers_afterAll later).2.awaited hanswer]
  waiting hqueue := (ended.queues hqueue).parked
  backlog path group := by
    rw [Hub.backlog, queueNumber?, if_pos ended.closed]
    rfl
  ack delivery := settlesLate_ack fun h => (ended.queues h).closed
  nack delivery := settlesLate_nack fun h => (ended.queues h).closed

end IsOver

end Hub
end BrokerLoad
