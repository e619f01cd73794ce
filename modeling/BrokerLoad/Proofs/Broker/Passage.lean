import BrokerLoad.Engine.Query
import BrokerLoad.Proofs.Broker.Posts
import BrokerLoad.Proofs.Envelope
import BrokerLoad.Proofs.Run

/-!
# What goes through a hub

`Hub.Passage` is what one exchange adds to the traffic of a hub.  What a caller reads is in its
hands, what it requests is at the ticket that it is given, and nothing that was handed over
is in two of these places (`Passage.handed`).

The calls that matter are those that engines make (`Call.isUse`): none of them deletes or
closes anything but a handle.  `Hub.Carries.serve` goes through them one by one, and is all
that the rest of the development knows about hubs.
-/

namespace BrokerLoad

/-- Whether a call is one that engines make. -/
def Call.isUse : Call → Bool
  | .createDestination _ => false
  | .createGroup _ => false
  | .deleteGroup _ _ => false
  | .deleteDestination _ => false
  | .shutDown => false
  | .nack _ => false
  | _ => true

namespace Exchange

/-- The ticket for a delivery that was given out, if one was. -/
def tickets : Exchange → List Ticket
  | ⟨.broker (.request _), .ok (some ticket)⟩ => [ticket]
  | _ => []

/-- The delivery that was read, if one was. -/
def readings : Exchange → List Delivery
  | ⟨.broker (.read _), .ok (some delivery)⟩ => [delivery]
  | _ => []

/-- The token of the delivery that was acknowledged, if one was. -/
def settled : Exchange → List UInt64
  | ⟨.broker (.ack delivery), .ok true⟩ => [delivery.token]
  | _ => []

end Exchange

namespace Hub

/-- What was accepted in an exchange, for the hub as it is after it: the receipt of a
submission is there at once. -/
def accepted (hub : Hub) : Exchange → List Bytes
  | ⟨.broker (.write _ data), .ok receipt⟩ => if receipt.status = .ok then [data] else []
  | ⟨.broker (.submit _ data), .ok (some ticket)⟩ => if hub.accepts ticket then [data] else []
  | _ => []

/-- What an exchange adds to the traffic. -/
structure Passage (spacing : UInt32) (before : Hub) (exchange : Exchange) (after : Hub)
    (traffic later : Traffic Bytes) : Prop where
  /-- The traffic is that of the hub from then on. -/
  carries : after.Carries spacing later
  /-- What was accepted was written. -/
  written : later.written = traffic.written ++ after.accepted exchange
  /-- What was acknowledged is settled. -/
  settled : later.settled = traffic.settled ++ exchange.settled
  /-- What was sent round again is counted. -/
  resent : ∃ again, later.resent = traffic.resent ++ again ∧ again.length ≤ 1 ∧
    after.counts.redeliveries = before.counts.redeliveries + UInt64.ofNat again.length
  /-- What was handed over is counted, and is in one place. -/
  handed : ∃ new, later.handed = traffic.handed ++ new ∧ new.length ≤ 1 ∧
    after.counts.deliveries = before.counts.deliveries + UInt64.ofNat new.length ∧
    ∀ waiting : List Ticket, waiting.Nodup → (∀ ticket ∈ waiting, ticket < before.awaited.size) →
      ∀ delivery, (after.arrivals (exchange.tickets ++ waiting)).count delivery +
        exchange.readings.count delivery ≤
          (before.arrivals waiting).count delivery +
            (new.map (Hub.delivery 0)).count delivery
  /-- What was accepted stays accepted. -/
  accepts : ∀ ticket, before.accepts ticket = true → after.accepts ticket = true
  /-- Tickets stay valid. -/
  room : before.awaited.size ≤ after.awaited.size
  /-- A ticket that is given out is new. -/
  fresh : ∀ ticket ∈ exchange.tickets, before.awaited.size ≤ ticket ∧
    ticket < after.awaited.size

namespace Passage

variable {hub after : Hub} {spacing : UInt32} {traffic later : Traffic Bytes}
  {new : List (Handover Bytes)} {again : List Bytes} {exchange : Exchange}

/-- What goes to parked reads is what was handed over, if the caller gets nothing. -/
theorem of_posts (posts : Posts hub after new again) (hone : new.length ≤ 1)
    (honce : again.length ≤ 1) (carries : after.Carries spacing later)
    (hhanded : later.handed = traffic.handed ++ new)
    (hresent : later.resent = traffic.resent ++ again)
    (hwritten : later.written = traffic.written ++ after.accepted exchange)
    (hsettled : later.settled = traffic.settled ++ exchange.settled)
    (htickets : exchange.tickets = []) (hreadings : exchange.readings = []) :
    Passage spacing hub exchange after traffic later where
  carries := carries
  written := hwritten
  settled := hsettled
  resent := ⟨again, hresent, honce, posts.redeliveries⟩
  handed := ⟨new, hhanded, hone, posts.deliveries, fun waiting hnodup _ delivery => by
    rw [htickets, hreadings]
    exact posts.arrivals waiting hnodup delivery⟩
  accepts := posts.accepts
  room := Nat.le_of_eq posts.size.symm
  fresh := by rw [htickets]; simp

/-- Nothing goes through a hub in an exchange in which nothing is accepted, acknowledged or
handed over. -/
theorem quiet (posts : Posts hub after []) (carries : after.Carries spacing traffic)
    (haccepted : after.accepted exchange = []) (hsettled : exchange.settled = [])
    (htickets : exchange.tickets = []) (hreadings : exchange.readings = []) :
    Passage spacing hub exchange after traffic traffic :=
  of_posts posts (Nat.zero_le _) (Nat.zero_le _) carries (List.append_nil _).symm
    (List.append_nil _).symm
    (by rw [haccepted, List.append_nil]) (by rw [hsettled, List.append_nil]) htickets hreadings

theorem refl (carries : hub.Carries spacing traffic) (haccepted : hub.accepted exchange = [])
    (hsettled : exchange.settled = []) (htickets : exchange.tickets = [])
    (hreadings : exchange.readings = []) : Passage spacing hub exchange hub traffic traffic :=
  quiet (.of_eq rfl rfl rfl rfl rfl) carries haccepted hsettled htickets hreadings

end Passage

namespace Carries

variable {hub : Hub} {spacing : UInt32} {traffic : Traffic Bytes}

theorem passage_write (carries : hub.Carries spacing traffic) (handle : Handle) (data : Bytes) :
    ∃ later, Passage spacing hub ⟨.broker (.write handle data), .ok (hub.write handle data).1⟩
      (hub.write handle data).2 traffic later := by
  rcases carries.write handle data with
    ⟨hrefused, hposts, hqueues⟩ | ⟨hok, new, hone, hposts, hcarries⟩
  · exact ⟨traffic, .quiet hposts (carries.of_queues_eq hposts hqueues) (if_neg hrefused)
      rfl rfl rfl⟩
  · have haccepted : (hub.write handle data).2.accepted
        ⟨.broker (.write handle data), .ok (hub.write handle data).1⟩ = [data] := if_pos hok
    refine ⟨_, .of_posts hposts hone (Nat.zero_le _) hcarries rfl (List.append_nil _).symm ?_
      (List.append_nil _).symm rfl rfl⟩
    rw [haccepted]
    rfl

/-- What goes through a hub when a message is submitted: the receipt is there at once. -/
theorem passage_submit (carries : hub.Carries spacing traffic) (handle : Handle) (data : Bytes) :
    ∃ later, Passage spacing hub
      ⟨.broker (.submit handle data), .ok (some (hub.submit handle data).1)⟩
      (hub.submit handle data).2 traffic later := by
  have hreceipt : (hub.submit handle data).2.accepts (hub.submit handle data).1 =
      decide ((hub.write handle data).1.status = .ok) := by
    simp [submit, accepts]
  have hpush : Posts (hub.write handle data).2 (hub.submit handle data).2 [] := {
    topology := rfl
    accepts := by
      intro ticket haccepts
      obtain ⟨receipt, hold, hok⟩ := (Option.any_eq_true _ _).1 haccepts
      have hlt := (Array.getElem?_eq_some_iff.1 hold).1
      refine (Option.any_eq_true _ _).2 ⟨receipt, ?_, hok⟩
      rw [submit, Array.getElem?_push, if_neg (Nat.ne_of_lt hlt), hold]
    deliveries := (UInt64.add_zero _).symm
    redeliveries := (UInt64.add_zero _).symm
    size := rfl
    arrivals := fun _ _ _ => Nat.le_refl _ }
  rcases carries.write handle data with
    ⟨hrefused, hposts, hqueues⟩ | ⟨hok, new, hone, hposts, hcarries⟩
  · have hrefuses : (hub.submit handle data).2.accepted
        ⟨.broker (.submit handle data), .ok (some (hub.submit handle data).1)⟩ = [] :=
      if_neg (by rw [hreceipt, decide_eq_false hrefused]; decide)
    exact ⟨traffic, .quiet (hposts.trans hpush) (carries.of_queues_eq (hposts.trans hpush) hqueues)
      hrefuses rfl rfl rfl⟩
  · have haccepted : (hub.submit handle data).2.accepted
        ⟨.broker (.submit handle data), .ok (some (hub.submit handle data).1)⟩ = [data] :=
      if_pos (by rw [hreceipt, decide_eq_true hok])
    have hall := hposts.trans hpush
    rw [List.append_nil] at hall
    refine ⟨_, .of_posts hall hone (Nat.zero_le _) (hcarries.of_queues_eq hpush rfl) rfl
      (List.append_nil _).symm ?_ (List.append_nil _).symm rfl rfl⟩
    rw [haccepted]
    rfl

/-- What goes through a hub when a message is read: it is in the hands of the reader. -/
theorem passage_read (carries : hub.Carries spacing traffic) (handle : Handle) :
    ∃ later, Passage spacing hub ⟨.broker (.read handle), .ok (hub.read handle).1⟩
      (hub.read handle).2 traffic later := by
  rw [Hub.read]
  split
  next => exact ⟨traffic, .refl carries rfl rfl rfl rfl⟩
  next number queue reader hheld =>
    obtain ⟨rfl, hqueue, hcarries⟩ := carries.queue_of_heldQueue? hheld
    have hread := hcarries.read
    split
    next => exact ⟨traffic, .refl carries rfl rfl rfl rfl⟩
    next handover after hread' =>
      rw [hread'] at hread
      refine ⟨traffic.hand [handover], ?_⟩
      exact {
        carries := ⟨carries.topology, after, queues_putQueue hqueue after, hread⟩
        written := (List.append_nil _).symm
        settled := (List.append_nil _).symm
        resent := ⟨[], (List.append_nil _).symm, Nat.zero_le _, (UInt64.add_zero _).symm⟩
        handed := ⟨[handover], rfl, Nat.le_refl _, rfl, fun _ _ _ _ => Nat.le_refl _⟩
        accepts := fun _ => id
        room := Nat.le_refl _
        fresh := by simp [Exchange.tickets] }

/-- A new ticket brings what it is given out with, and the others what they brought before. -/
theorem arrivals_ticketFor (hub : Hub) (awaited : Awaited) {waiting : List Ticket}
    (hvalid : ∀ ticket ∈ waiting, ticket < hub.awaited.size) (delivery : Delivery) :
    ((hub.ticketFor awaited).2.arrivals ((hub.ticketFor awaited).1 :: waiting)).count delivery =
      (if awaited = .arrived delivery then 1 else 0) + (hub.arrivals waiting).count delivery := by
  have hold : (hub.ticketFor awaited).2.arrivals waiting = hub.arrivals waiting := by
    refine List.filterMap_congr fun ticket hticket => ?_
    have hne := Nat.ne_of_lt (hvalid ticket hticket)
    simp only [arrived?, ticketFor, Array.getElem?_push, if_neg hne]
  have hat : (hub.ticketFor awaited).2.awaited[(hub.ticketFor awaited).1]? = some awaited := by
    simp only [ticketFor, Array.getElem?_push, if_true]
  rw [arrivals, List.filterMap_cons, arrived?, hat, ← arrivals, hold]
  cases awaited <;> simp [List.count_cons, Nat.add_comm]

/-- What goes through a hub when a ticket is given out, with a delivery or without one. -/
theorem passage_ticketFor (handle : Handle) {between : Hub} {awaited : Awaited}
    {new : List (Handover Bytes)} (hcarries : between.Carries spacing (traffic.hand new))
    (hone : new.length ≤ 1) (hreceipts : between.receipts = hub.receipts)
    (hawaited : between.awaited = hub.awaited)
    (hdeliveries : between.counts.deliveries = hub.counts.deliveries + UInt64.ofNat new.length)
    (hredeliveries : between.counts.redeliveries = hub.counts.redeliveries)
    (hnew : ∀ delivery, (if awaited = .arrived delivery then 1 else 0) =
      (new.map (Hub.delivery 0)).count delivery) :
    Passage spacing hub ⟨.broker (.request handle), .ok (some (between.ticketFor awaited).1)⟩
      (between.ticketFor awaited).2 traffic (traffic.hand new) where
  carries := { hcarries with }
  written := (List.append_nil _).symm
  settled := (List.append_nil _).symm
  resent := ⟨[], (List.append_nil _).symm, Nat.zero_le _,
    hredeliveries.trans (UInt64.add_zero _).symm⟩
  handed := by
    refine ⟨new, rfl, hone, hdeliveries, ?_⟩
    intro waiting _ hvalid delivery
    have hticket := arrivals_ticketFor between awaited (hawaited.symm ▸ hvalid) delivery
    rw [hnew, Nat.add_comm, arrivals, arrivals, arrived?_congr hawaited] at hticket
    exact Nat.le_of_eq hticket
  accepts ticket haccepts := by
    have hsame : (between.ticketFor awaited).2.receipts = hub.receipts := hreceipts
    rw [Hub.accepts, hsame]
    exact haccepts
  room := by
    show hub.awaited.size ≤ (between.awaited.push awaited).size
    rw [Array.size_push, hawaited]
    exact Nat.le_succ _
  fresh ticket hticket := by
    rw [List.mem_singleton.1 hticket]
    show hub.awaited.size ≤ between.awaited.size ∧
      between.awaited.size < (between.awaited.push awaited).size
    rw [Array.size_push, hawaited]
    exact ⟨Nat.le_refl _, Nat.lt_succ_self _⟩

/-- A ticket that is given out without a delivery adds nothing to the traffic. -/
theorem passage_ticketFor_nothing (handle : Handle) {between : Hub} {awaited : Awaited}
    (hcarries : between.Carries spacing traffic) (hreceipts : between.receipts = hub.receipts)
    (hawaited : between.awaited = hub.awaited) (hcounts : between.counts = hub.counts)
    (hnothing : ∀ delivery, awaited ≠ .arrived delivery) :
    Passage spacing hub ⟨.broker (.request handle), .ok (some (between.ticketFor awaited).1)⟩
      (between.ticketFor awaited).2 traffic traffic := by
  have hall := passage_ticketFor handle (traffic.hand_nil.symm ▸ hcarries) (Nat.zero_le _)
    hreceipts hawaited (by rw [hcounts]; exact (UInt64.add_zero _).symm) (by rw [hcounts])
    fun delivery => if_neg (hnothing delivery)
  rw [traffic.hand_nil] at hall
  exact hall

/-- What goes through a hub when a message is requested: it is at the new ticket. -/
theorem passage_request (carries : hub.Carries spacing traffic) (handle : Handle) :
    ∃ later, Passage spacing hub ⟨.broker (.request handle), .ok (some (hub.request handle).1)⟩
      (hub.request handle).2 traffic later := by
  rw [Hub.request]
  split
  next => exact ⟨traffic, passage_ticketFor_nothing handle carries rfl rfl rfl (by simp)⟩
  next number queue reader hheld =>
    obtain ⟨rfl, hqueue, hcarries⟩ := carries.queue_of_heldQueue? hheld
    rcases hcarries.request reader hub.awaited.size with
      ⟨handover, hanswered, hafter⟩ | ⟨hparked, hafter⟩
    · split
      next after heq => rw [heq] at hanswered; cases hanswered
      next other after heq =>
        rw [heq] at hanswered hafter
        cases hanswered
        have hput : ((hub.putQueue 0 after).countDelivery).Carries spacing
            (traffic.hand [handover]) :=
          ⟨carries.topology, after, queues_putQueue hqueue after, hafter⟩
        refine ⟨_, passage_ticketFor handle hput (Nat.le_refl _) rfl rfl rfl rfl ?_⟩
        intro delivery
        simp [List.count_singleton]
      next after heq => rw [heq] at hanswered; cases hanswered
    · split
      next after heq => rw [heq] at hparked; cases hparked
      next other after heq => rw [heq] at hparked; cases hparked
      next after heq =>
        rw [heq] at hafter
        have hput : (hub.putQueue 0 after).Carries spacing traffic :=
          ⟨carries.topology, after, queues_putQueue hqueue after, hafter⟩
        exact ⟨traffic, passage_ticketFor_nothing handle hput rfl rfl rfl (by simp)⟩

/-- What goes through a hub when a delivery is acknowledged: it may go round again. -/
theorem passage_ack (carries : hub.Carries spacing traffic) (delivery : Delivery) :
    ∃ later, Passage spacing hub ⟨.broker (.ack delivery), .ok (hub.ack delivery).1⟩
      (hub.ack delivery).2 traffic later := by
  rw [Hub.ack]
  split
  next => exact ⟨traffic, .refl carries rfl rfl rfl rfl⟩
  next settlement after hack =>
    obtain ⟨queue, hqueue?, hack⟩ := Option.bind_eq_some_iff.1 hack
    have hnumber : hub.queues[delivery.queue]? = some queue := by
      rw [queueOf?] at hqueue?
      split at hqueue?
      · exact hqueue?
      · cases hqueue?
    obtain ⟨hzero, hqueue, hcarries⟩ := carries.queue_of_getElem? hnumber
    rw [hzero]
    have hcounted : Posts hub
        (({ hub with counts := { hub.counts with acks := hub.counts.acks + 1 } } :
          Hub).putQueue 0 after) [] := .of_eq rfl rfl rfl rfl rfl
    rcases hcarries.ack hack with ⟨rfl, hafter⟩ | ⟨data, served, rfl, hafter⟩
    · have hposts := hcounted.trans (.of_eq rfl rfl rfl rfl rfl)
      have hdone := carries.of_posts hposts (queues_putQueue hqueue after) hafter
      exact ⟨_, .of_posts hposts (Nat.zero_le _) (Nat.zero_le _) hdone (List.append_nil _).symm
        (List.append_nil _).symm (List.append_nil _).symm rfl rfl rfl⟩
    · -- the duplicate is counted first, and then goes to a parked read, if there is one
      have hposts := (hcounted.trans (.resent _ data)).trans (.serveParked _ served)
      have hresent := carries.of_posts hposts
        ((queues_serveParked _ 0 served).trans (queues_putQueue hqueue after)) hafter
      refine ⟨_, .of_posts hposts ?_ (Nat.le_refl _) hresent rfl rfl (List.append_nil _).symm rfl
        rfl rfl⟩
      cases served <;> simp

/-- Every call that engines make adds to the traffic what its exchange says. -/
theorem serve (carries : hub.Carries spacing traffic) (call : Call) (hcall : call.isUse = true) :
    ∃ later, Passage spacing hub ⟨.broker call, (hub.serve call).reply⟩ (hub.serve call).client
      traffic later := by
  cases call with
  | createDestination destination => cases hcall
  | createGroup group => cases hcall
  | deleteGroup path name => cases hcall
  | deleteDestination path => cases hcall
  | shutDown => cases hcall
  | nack delivery => cases hcall
  | create role =>
    have hposts : Posts hub (hub.create role).2 [] ∧ (hub.create role).2.queues = hub.queues := by
      unfold create
      split
      · exact ⟨.of_eq rfl rfl rfl rfl rfl, rfl⟩
      · cases role <;> exact ⟨.of_eq rfl rfl rfl rfl rfl, rfl⟩
    exact ⟨traffic, .quiet hposts.1 (carries.of_queues_eq hposts.1 hposts.2) rfl rfl rfl rfl⟩
  | openHandle handle =>
    have hposts : Posts hub (hub.openHandle handle).2 [] ∧
        (hub.openHandle handle).2.queues = hub.queues := by
      rw [openHandle]
      split
      · split <;> exact ⟨.of_eq rfl rfl rfl rfl rfl, rfl⟩
      · split <;> exact ⟨.of_eq rfl rfl rfl rfl rfl, rfl⟩
      · exact ⟨.of_eq rfl rfl rfl rfl rfl, rfl⟩
    exact ⟨traffic, .quiet hposts.1 (carries.of_queues_eq hposts.1 hposts.2) rfl rfl rfl rfl⟩
  | lastError handle => exact ⟨traffic, .refl carries rfl rfl rfl rfl⟩
  | closeHandle handle =>
    obtain ⟨hposts, hcarries⟩ := carries.closeHandle handle
    exact ⟨traffic, .quiet hposts hcarries rfl rfl rfl rfl⟩
  | release handle =>
    obtain ⟨hposts, hcarries⟩ := carries.closeHandle handle
    have hreleased : Posts (hub.closeHandle handle) (hub.release handle) [] :=
      .of_eq rfl rfl rfl rfl rfl
    exact ⟨traffic, .quiet (hposts.trans hreleased) { hcarries with } rfl rfl rfl rfl⟩
  | submit handle data => exact carries.passage_submit handle data
  | receiptReady ticket => exact ⟨traffic, .refl carries rfl rfl rfl rfl⟩
  | takeReceipt ticket => exact ⟨traffic, .refl carries rfl rfl rfl rfl⟩
  | write handle data => exact carries.passage_write handle data
  | request handle => exact carries.passage_request handle
  | deliveryReady ticket => exact ⟨traffic, .refl carries rfl rfl rfl rfl⟩
  | takeDelivery ticket => exact ⟨traffic, .refl carries rfl rfl rfl rfl⟩
  | read handle => exact carries.passage_read handle
  | ack delivery => exact carries.passage_ack delivery

end Carries
end Hub
end BrokerLoad
