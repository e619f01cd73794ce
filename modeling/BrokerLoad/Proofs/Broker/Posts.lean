import BrokerLoad.Broker.Hub
import BrokerLoad.Proofs.Broker.Traffic

/-!
# What a hub hands over

A hub with one destination and one consumer group has one queue, and everything that goes
through the hub goes through that queue.  `Hub.Carries` says which traffic it is.

`Hub.Posts` is the rest of what an operation does: how many deliveries it counts, what it
puts at tickets, and that it leaves the topology and the receipts alone.  A handover becomes
a delivery at one ticket only, and a ticket is answered once; so what is at any set of
tickets grows by no more than what was handed over (`Posts.arrivals`).  The statement is a
bound for each delivery and not an equation, because a delivery at a ticket that nobody waits
for any more is still handed over.
-/

namespace BrokerLoad

/-- The deliveries of the only queue of a hub. -/
def Traffic.deliveries (traffic : Traffic Bytes) : List Delivery :=
  traffic.handed.map (Hub.delivery 0)

namespace Hub

/-- Whether the receipt behind a ticket accepts. -/
def accepts (hub : Hub) (ticket : Ticket) : Bool :=
  (hub.receipts[ticket]?).any fun receipt => receipt.status = .ok

/-- The delivery that is there at a ticket. -/
def arrived? (hub : Hub) (ticket : Ticket) : Option Delivery :=
  match hub.awaited[ticket]? with
  | some (.arrived delivery) => some delivery
  | _ => none

/-- The deliveries that are there at tickets. -/
def arrivals (hub : Hub) (tickets : List Ticket) : List Delivery :=
  tickets.filterMap hub.arrived?

/-- A hub with one destination and one group, and the traffic of its queue. -/
structure Carries (hub : Hub) (spacing : UInt32) (traffic : Traffic Bytes) : Prop where
  /-- There is one destination, and one group. -/
  topology : ∃ path group, hub.topology = [(path, [(group, 0)])]
  /-- There is one queue, and it is right about its traffic. -/
  queue : ∃ queue, hub.queues = #[queue] ∧ queue.Carries spacing traffic []

/-! ## Answering tickets -/

/-- Changing a partial function at one place adds at most one value to those on a list. -/
theorem count_filterMap_le {α β : Type} [DecidableEq α] [DecidableEq β] {f g : α → Option β}
    {a : α} (hsame : ∀ x, x ≠ a → g x = f x) {l : List α} (hnodup : l.Nodup) (b : β) :
    (l.filterMap g).count b ≤ (l.filterMap f).count b + (g a).toList.count b := by
  induction l with
  | nil => exact Nat.zero_le _
  | cons x rest ih =>
    obtain ⟨hx, hrest⟩ := List.nodup_cons.1 hnodup
    have hsplit : ∀ h : α → Option β, ((x :: rest).filterMap h).count b =
        (h x).toList.count b + (rest.filterMap h).count b := by
      intro h
      rw [List.filterMap_cons]
      cases h x with
      | none => simp
      | some y => simp [List.count_cons, Nat.add_comm]
    rw [hsplit g, hsplit f]
    by_cases hxa : x = a
    · subst hxa
      have hagree : rest.filterMap g = rest.filterMap f :=
        List.filterMap_congr fun y hy => hsame y fun hyx => hx (hyx ▸ hy)
      rw [hagree]
      omega
    · have hrest' := ih hrest
      rw [hsame x hxa]
      omega

theorem arrived?_congr {before after : Hub} (hawaited : after.awaited = before.awaited) :
    after.arrived? = before.arrived? := by
  funext ticket
  simp only [arrived?, hawaited]

/-- What becomes of a hub, but for its queues, when so much is handed over to parked reads and
so much is sent round again. -/
structure Posts (before after : Hub) (new : List (Handover Bytes)) (again : List Bytes := []) :
    Prop where
  /-- Nothing is created or deleted. -/
  topology : after.topology = before.topology
  /-- What was accepted stays accepted. -/
  accepts : ∀ ticket, before.accepts ticket = true → after.accepts ticket = true
  /-- Handovers are counted. -/
  deliveries : after.counts.deliveries = before.counts.deliveries + UInt64.ofNat new.length
  /-- What is sent round again is counted. -/
  redeliveries : after.counts.redeliveries =
    before.counts.redeliveries + UInt64.ofNat again.length
  /-- No ticket is given out. -/
  size : after.awaited.size = before.awaited.size
  /-- Each handover is at one ticket. -/
  arrivals : ∀ waiting : List Ticket, waiting.Nodup → ∀ delivery,
    (after.arrivals waiting).count delivery ≤
      (before.arrivals waiting).count delivery + (new.map (Hub.delivery 0)).count delivery

namespace Posts

variable {before between after : Hub} {new more : List (Handover Bytes)} {again anew : List Bytes}

/-- Nothing is handed over as long as nothing of this changes. -/
theorem of_eq (topology : after.topology = before.topology)
    (receipts : after.receipts = before.receipts)
    (deliveries : after.counts.deliveries = before.counts.deliveries)
    (redeliveries : after.counts.redeliveries = before.counts.redeliveries)
    (awaited : after.awaited = before.awaited) : Posts before after [] where
  topology := topology
  accepts ticket haccepts := by
    rw [Hub.accepts, receipts]
    exact haccepts
  deliveries := by rw [deliveries, List.length_nil]; exact (UInt64.add_zero _).symm
  redeliveries := by rw [redeliveries, List.length_nil]; exact (UInt64.add_zero _).symm
  size := by rw [awaited]
  arrivals waiting _ delivery := by
    rw [Hub.arrivals, arrived?_congr awaited]
    exact Nat.le_add_right _ _

theorem trans (posts : Posts before between new again) (posts' : Posts between after more anew) :
    Posts before after (new ++ more) (again ++ anew) where
  topology := posts'.topology.trans posts.topology
  accepts ticket haccepts := posts'.accepts ticket (posts.accepts ticket haccepts)
  deliveries := by
    rw [posts'.deliveries, posts.deliveries, List.length_append, UInt64.ofNat_add,
      UInt64.add_assoc]
  redeliveries := by
    rw [posts'.redeliveries, posts.redeliveries, List.length_append, UInt64.ofNat_add,
      UInt64.add_assoc]
  size := posts'.size.trans posts.size
  arrivals waiting hnodup delivery := by
    have hfirst := posts.arrivals waiting hnodup delivery
    have hsecond := posts'.arrivals waiting hnodup delivery
    rw [List.map_append, List.count_append]
    omega

/-- Answering a ticket puts at most one delivery there. -/
theorem arrivals_resolve (hub : Hub) (answer : Awaited) (ticket : Ticket) {waiting : List Ticket}
    (hnodup : waiting.Nodup) (delivery : Delivery) :
    ((hub.resolve answer ticket).arrivals waiting).count delivery ≤
      (hub.arrivals waiting).count delivery + if answer = .arrived delivery then 1 else 0 := by
  have hother : ∀ t, t ≠ ticket → (hub.resolve answer ticket).arrived? t = hub.arrived? t := by
    intro t ht
    rw [arrived?, arrived?, resolve, Array.getElem?_setIfInBounds_ne ht.symm]
  have hone : ((hub.resolve answer ticket).arrived? ticket).toList.count delivery ≤
      if answer = .arrived delivery then 1 else 0 := by
    rw [arrived?, resolve, Array.getElem?_setIfInBounds_self]
    split
    next arrived harrived =>
      split at harrived
      · cases harrived
        simp only [Option.toList_some, List.count_singleton, beq_iff_eq, Awaited.arrived.injEq]
        exact Nat.le_refl _
      · cases harrived
    next => exact Nat.zero_le _
  exact Nat.le_trans (count_filterMap_le hother hnodup delivery) (Nat.add_le_add_left hone _)

theorem resolve_nothing (hub : Hub) (answer : Awaited) (ticket : Ticket)
    (hanswer : ∀ delivery, answer ≠ .arrived delivery) :
    Posts hub (hub.resolve answer ticket) [] where
  topology := rfl
  accepts _ := id
  deliveries := (UInt64.add_zero _).symm
  redeliveries := (UInt64.add_zero _).symm
  size := Array.size_setIfInBounds
  arrivals waiting hnodup delivery := by
    have hle := arrivals_resolve hub answer ticket hnodup delivery
    rw [if_neg (hanswer delivery)] at hle
    exact hle

/-- Several tickets are answered without a delivery. -/
theorem resolveAll_nothing (answer : Awaited) (hanswer : ∀ delivery, answer ≠ .arrived delivery)
    (hub : Hub) (tickets : List Ticket) : Posts hub (hub.resolveAll answer tickets) [] := by
  induction tickets generalizing hub with
  | nil => exact .of_eq rfl rfl rfl rfl rfl
  | cons ticket rest ih => exact (resolve_nothing hub answer ticket hanswer).trans (ih _)

/-- What goes to a parked read is handed over. -/
theorem serveParked (hub : Hub) (served : Option (Ticket × Handover Bytes)) :
    Posts hub (hub.serveParked 0 served) (served.map Prod.snd).toList := by
  cases served with
  | none => exact .of_eq rfl rfl rfl rfl rfl
  | some pair =>
    obtain ⟨ticket, handover⟩ := pair
    exact {
      topology := rfl
      accepts := fun _ => id
      deliveries := rfl
      redeliveries := (UInt64.add_zero _).symm
      size := Array.size_setIfInBounds
      arrivals := by
        intro waiting hnodup delivery
        have hle := arrivals_resolve hub.countDelivery (.arrived (Hub.delivery 0 handover)) ticket
          hnodup delivery
        have hone : ([handover].map (Hub.delivery 0)).count delivery =
            if Awaited.arrived (Hub.delivery 0 handover) = .arrived delivery then 1 else 0 := by
          simp [List.count_singleton]
        show _ ≤ _ + ([handover].map (Hub.delivery 0)).count delivery
        rw [hone]
        exact hle }

end Posts

/-! ## Queues -/

@[simp] theorem queues_resolveAll (answer : Awaited) (hub : Hub) (tickets : List Ticket) :
    (hub.resolveAll answer tickets).queues = hub.queues := by
  induction tickets generalizing hub with
  | nil => rfl
  | cons ticket rest ih => exact ih (hub.resolve answer ticket)

@[simp] theorem queues_serveParked (hub : Hub) (number : Nat)
    (served : Option (Ticket × Handover Bytes)) :
    (hub.serveParked number served).queues = hub.queues := by
  cases served <;> rfl

@[simp] theorem queues_countWrite (hub : Hub) (status : WriteStatus) :
    (hub.countWrite status).queues = hub.queues := by
  cases status <;> rfl

theorem queues_putQueue {hub : Hub} {queue : Queue Bytes} (hqueue : hub.queues = #[queue])
    (other : Queue Bytes) : (hub.putQueue 0 other).queues = #[other] := by
  rw [putQueue, hqueue]
  rfl

theorem Posts.putQueue (hub : Hub) (number : Nat) (queue : Queue Bytes) :
    Posts hub (hub.putQueue number queue) [] :=
  .of_eq rfl rfl rfl rfl rfl

/-- A message that is sent round again is counted. -/
theorem Posts.resent (hub : Hub) (data : Bytes) :
    Posts hub { hub with
      counts := { hub.counts with redeliveries := hub.counts.redeliveries + 1 } } [] [data] where
  topology := rfl
  accepts _ := id
  deliveries := (UInt64.add_zero _).symm
  redeliveries := rfl
  size := rfl
  arrivals _ _ _ := Nat.le_refl _

theorem Posts.countWrite (hub : Hub) (status : WriteStatus) :
    Posts hub (hub.countWrite status) [] := by
  cases status <;> exact .of_eq rfl rfl rfl rfl rfl

namespace Carries

variable {hub after : Hub} {spacing : UInt32} {traffic later : Traffic Bytes}
  {new : List (Handover Bytes)} {again : List Bytes}

/-- A hub carries what its queue does. -/
theorem of_posts (carries : hub.Carries spacing traffic) (posts : Posts hub after new again)
    {queue : Queue Bytes} (hqueue : after.queues = #[queue])
    (hcarries : queue.Carries spacing later []) : after.Carries spacing later where
  topology := posts.topology ▸ carries.topology
  queue := ⟨queue, hqueue, hcarries⟩

theorem of_queues_eq (carries : hub.Carries spacing traffic) (posts : Posts hub after new)
    (hqueues : after.queues = hub.queues) : after.Carries spacing traffic where
  topology := posts.topology ▸ carries.topology
  queue := hqueues ▸ carries.queue

/-- There is a queue of no other number. -/
theorem queue_of_getElem? (carries : hub.Carries spacing traffic) {number : Nat}
    {queue : Queue Bytes} (hqueue : hub.queues[number]? = some queue) :
    number = 0 ∧ hub.queues = #[queue] ∧ queue.Carries spacing traffic [] := by
  obtain ⟨only, honly, hcarries⟩ := carries.queue
  rw [honly, Array.getElem?_eq_some_iff] at hqueue
  obtain ⟨hlt, hget⟩ := hqueue
  have hzero : number = 0 := by
    simpa using hlt
  subst hzero
  have heq : only = queue := hget
  subst heq
  exact ⟨rfl, honly, hcarries⟩

/-- A consumer can hold no other queue. -/
theorem queue_of_heldQueue? (carries : hub.Carries spacing traffic) {handle : Handle}
    {number : Nat} {queue : Queue Bytes} {reader : UInt64}
    (hheld : hub.heldQueue? handle = some (number, queue, reader)) :
    number = 0 ∧ hub.queues = #[queue] ∧ queue.Carries spacing traffic [] := by
  rw [heldQueue?] at hheld
  split at hheld
  · obtain ⟨found, hfound, heq⟩ := Option.map_eq_some_iff.1 hheld
    cases heq
    exact carries.queue_of_getElem? hfound
  · cases hheld

/-! ## Writing -/

/-- What is put in is written. -/
theorem pushTo (carries : hub.Carries spacing traffic) (data : Bytes) :
    ∃ new, new.length ≤ 1 ∧ Posts hub (hub.pushTo data 0) new ∧
      (hub.pushTo data 0).Carries spacing ((traffic.write data).hand new) := by
  obtain ⟨queue, hqueue, hcarries⟩ := carries.queue
  have hpush : hub.pushTo data 0 =
      (hub.putQueue 0 (queue.push { data }).2).serveParked 0 (queue.push { data }).1 := by
    rw [Hub.pushTo, hqueue]
    rfl
  have hposts : Posts hub (hub.pushTo data 0) ((queue.push { data }).1.map Prod.snd).toList :=
    hpush ▸ (Posts.putQueue hub 0 _).trans (.serveParked _ _)
  have hwritten : (queue.push { data }).2.Carries spacing
      ((traffic.write data).hand ((queue.push { data }).1.map Prod.snd).toList) [] :=
    (hcarries.write data).push
  refine ⟨_, ?_, hposts, carries.of_posts hposts ?_ hwritten⟩
  · cases (queue.push { data }).1 <;> simp
  · rw [hpush, queues_serveParked, queues_putQueue hqueue]

/-- A write to a destination is refused and leaves no trace but in the counts of writes, or it
is accepted and written. -/
theorem publish (carries : hub.Carries spacing traffic) (path : String) (data : Bytes) :
    ((hub.publish path data).1.status ≠ .ok ∧ Posts hub (hub.publish path data).2 [] ∧
      (hub.publish path data).2.queues = hub.queues) ∨
    ((hub.publish path data).1.status = .ok ∧ ∃ new, new.length ≤ 1 ∧
      Posts hub (hub.publish path data).2 new ∧
      (hub.publish path data).2.Carries spacing ((traffic.write data).hand new)) := by
  rw [Hub.publish]
  split
  next => exact .inl ⟨by simp, .countWrite hub .failed, queues_countWrite hub .failed⟩
  next =>
    split
    next => exact .inl ⟨by simp, .countWrite hub .failed, queues_countWrite hub .failed⟩
    next groups hgroups =>
      have hadmitted : Posts hub { hub with writes := hub.writes + 1 } [] :=
        .of_eq rfl rfl rfl rfl rfl
      dsimp only
      split
      next => exact .inl ⟨by simp, hadmitted.trans (.countWrite _ .throttled), rfl⟩
      next =>
        obtain ⟨destination, group, htopology⟩ := carries.topology
        have honly : groups = [(group, 0)] := by
          rw [groups?, htopology, List.lookup_cons] at hgroups
          split at hgroups
          · exact (Option.some.inj hgroups).symm
          · cases hgroups
        have hcarries : Carries { hub with writes := hub.writes + 1 } spacing traffic :=
          carries.of_queues_eq hadmitted rfl
        obtain ⟨new, hone, hposts, hpushed⟩ := hcarries.pushTo data
        refine .inr ⟨rfl, new, hone, ?_⟩
        rw [honly]
        have hall := (hadmitted.trans hposts).trans (.countWrite _ .ok)
        rw [List.nil_append, List.append_nil] at hall
        exact ⟨hall, hpushed.of_queues_eq (.countWrite _ .ok) rfl⟩

/-- So is a write through a publisher, which is refused as well if the publisher is not open. -/
theorem write (carries : hub.Carries spacing traffic) (handle : Handle) (data : Bytes) :
    ((hub.write handle data).1.status ≠ .ok ∧ Posts hub (hub.write handle data).2 [] ∧
      (hub.write handle data).2.queues = hub.queues) ∨
    ((hub.write handle data).1.status = .ok ∧ ∃ new, new.length ≤ 1 ∧
      Posts hub (hub.write handle data).2 new ∧
      (hub.write handle data).2.Carries spacing ((traffic.write data).hand new)) := by
  rw [Hub.write]
  split
  next => exact carries.publish _ data
  next => exact .inl ⟨by simp, .of_eq rfl rfl rfl rfl rfl, rfl⟩

/-! ## Closing handles -/

/-- Dropping reads hands nothing over. -/
theorem dropReads (carries : hub.Carries spacing traffic) (number : Nat) (reader : UInt64) :
    Posts hub (hub.dropReads number reader) [] ∧
      (hub.dropReads number reader).Carries spacing traffic := by
  rw [Hub.dropReads]
  split
  next => exact ⟨.of_eq rfl rfl rfl rfl rfl, carries⟩
  next queue hnumber =>
    obtain ⟨rfl, hqueue, hcarries⟩ := carries.queue_of_getElem? hnumber
    have hposts := (Posts.putQueue hub 0 (queue.drop reader).2).trans
      (.resolveAll_nothing .broken (by simp) _ (queue.drop reader).1)
    have hdropped : (queue.drop reader).2.Carries spacing traffic [] := hcarries.park _
    have hqueues := (queues_resolveAll .broken (hub.putQueue 0 (queue.drop reader).2)
      (queue.drop reader).1).trans (queues_putQueue hqueue _)
    exact ⟨hposts, carries.of_posts hposts hqueues hdropped⟩

/-- Nor does closing a handle. -/
theorem closeHandle (carries : hub.Carries spacing traffic) (handle : Handle) :
    Posts hub (hub.closeHandle handle) [] ∧ (hub.closeHandle handle).Carries spacing traffic := by
  rw [Hub.closeHandle]
  split
  next => exact ⟨.of_eq rfl rfl rfl rfl rfl, { carries with }⟩
  next number lastError hhandle =>
    obtain ⟨hposts, hcarries⟩ := carries.dropReads number _
    exact ⟨hposts.trans (.of_eq rfl rfl rfl rfl rfl), { hcarries with }⟩
  next => exact ⟨.of_eq rfl rfl rfl rfl rfl, carries⟩

end Carries

end Hub
end BrokerLoad
