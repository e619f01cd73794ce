import BrokerLoad.Proofs.Broker.Turning

/-!
# Operations that acknowledge nothing

A queue counts its acknowledgements.  Every operation but an acknowledgement leaves that count
as it is, and never opens a queue that was shut down (`Queue.Alike`).  So every call but an
acknowledgement leaves each queue of a hub *alike*, or creates it (`Hub.Alike`).
-/

namespace BrokerLoad
namespace Queue

variable {δ : Type} {q after : Queue δ}

/-! ## Operations -/

/-- A queue after operations that acknowledge nothing. -/
structure Alike (q after : Queue δ) : Prop where
  redeliverEvery : after.redeliverEvery = q.redeliverEvery
  acks : after.acks = q.acks
  /-- What is open was open. -/
  opened : after.closed = false → q.closed = false

namespace Alike

theorem refl (q : Queue δ) : q.Alike q := ⟨rfl, rfl, id⟩

theorem trans {between : Queue δ} (first : q.Alike between) (second : between.Alike after) :
    q.Alike after where
  redeliverEvery := second.redeliverEvery.trans first.redeliverEvery
  acks := second.acks.trans first.acks
  opened := first.opened ∘ second.opened

theorem push (q : Queue δ) (message : Message δ) : q.Alike (q.push message).2 := by
  rcases q.push_cases message with
    ⟨-, hpush⟩ | ⟨-, -, hpush⟩ | ⟨read, rest, -, -, hpush⟩ <;> rw [hpush] <;> exact ⟨rfl, rfl, id⟩

theorem read (q : Queue δ) : q.Alike q.read.2 := by
  rw [Queue.read]
  split
  · exact refl q
  · split <;> exact ⟨rfl, rfl, id⟩

theorem request (q : Queue δ) (reader : UInt64) (ticket : Ticket) :
    q.Alike (q.request reader ticket).2 := by
  rw [Queue.request]
  split
  · exact refl q
  · split <;> exact ⟨rfl, rfl, id⟩

/-- A refusal is no acknowledgement. -/
theorem nack {token : UInt64} {settlement : Settlement δ}
    (hnack : q.nack token = some (settlement, after)) : q.Alike after := by
  rw [Queue.nack, Option.map_eq_some_iff] at hnack
  obtain ⟨message, -, hafter⟩ := hnack
  have hsettle : q.Alike (q.settle token) := ⟨rfl, rfl, id⟩
  dsimp only at hafter
  split at hafter
  · cases hafter
    exact hsettle
  · split at hafter <;> cases hafter
    · exact hsettle
    · exact hsettle.trans (push _ _)

end Alike

end Queue

namespace Hub

/-! ## Calls -/

/-- A hub after steps that acknowledge nothing: each queue is alike, or it is new. -/
structure Alike (before after : Hub) : Prop where
  redeliverEvery : after.redeliverEvery = before.redeliverEvery
  size : before.queues.size ≤ after.queues.size
  queues : ∀ {number : Nat} {queue : Queue Bytes}, after.queues[number]? = some queue →
    (∃ earlier, before.queues[number]? = some earlier ∧ earlier.Alike queue) ∨
    (before.queues.size ≤ number ∧ queue.redeliverEvery = before.redeliverEvery ∧ queue.acks = 0)

theorem redeliverEvery_resolveAll (answer : Awaited) (hub : Hub) (tickets : List Ticket) :
    (hub.resolveAll answer tickets).redeliverEvery = hub.redeliverEvery := by
  induction tickets generalizing hub with
  | nil => rfl
  | cons ticket rest ih => exact ih _

theorem redeliverEvery_serveParked (hub : Hub) (number : Nat)
    (served : Option (Ticket × Handover Bytes)) :
    (hub.serveParked number served).redeliverEvery = hub.redeliverEvery := by
  cases served <;> rfl

theorem redeliverEvery_countSettlement (hub : Hub) (number : Nat)
    (settlement : Queue.Settlement Bytes) :
    (hub.countSettlement number settlement).redeliverEvery = hub.redeliverEvery := by
  cases settlement with
  | redelivered served => exact redeliverEvery_serveParked _ _ _
  | done => rfl
  | deadLettered => rfl

theorem queues_countSettlement (hub : Hub) (number : Nat) (settlement : Queue.Settlement Bytes) :
    (hub.countSettlement number settlement).queues = hub.queues := by
  cases settlement with
  | redelivered served => exact queues_serveParked _ _ _
  | done => rfl
  | deadLettered => rfl

namespace Alike

variable {before between after : Hub}

theorem of_eq (hevery : after.redeliverEvery = before.redeliverEvery)
    (hqueues : after.queues = before.queues) : before.Alike after where
  redeliverEvery := hevery
  size := Nat.le_of_eq (congrArg Array.size hqueues.symm)
  queues hqueue := .inl ⟨_, hqueues ▸ hqueue, .refl _⟩

theorem refl (hub : Hub) : hub.Alike hub := of_eq rfl rfl

theorem trans (first : before.Alike between) (second : between.Alike after) :
    before.Alike after where
  redeliverEvery := second.redeliverEvery.trans first.redeliverEvery
  size := Nat.le_trans first.size second.size
  queues {number queue} hqueue := by
    rcases second.queues hqueue with ⟨middle, hmiddle, halike⟩ | ⟨hnew, hevery, hacks⟩
    · rcases first.queues hmiddle with ⟨earlier, hearlier, halike'⟩ | ⟨hnew, hevery, hacks⟩
      · exact .inl ⟨earlier, hearlier, halike'.trans halike⟩
      · exact .inr ⟨hnew, halike.redeliverEvery.trans hevery, halike.acks.trans hacks⟩
    · exact .inr ⟨Nat.le_trans first.size hnew, hevery.trans first.redeliverEvery, hacks⟩

/-- A step at one queue. -/
theorem of_queue {number : Nat} {queue changed : Queue Bytes}
    (hfound : before.queues[number]? = some queue) (halike : queue.Alike changed)
    (hevery : after.redeliverEvery = before.redeliverEvery)
    (hqueues : after.queues = before.queues.setIfInBounds number changed) :
    before.Alike after where
  redeliverEvery := hevery
  size := by rw [hqueues, Array.size_setIfInBounds]
  queues {other found} hother := by
    have hlt := (Array.getElem?_eq_some_iff.1 hfound).1
    rw [hqueues, Array.getElem?_setIfInBounds, if_pos hlt] at hother
    split at hother
    next hsame =>
      cases hother
      exact .inl ⟨queue, hsame ▸ hfound, halike⟩
    next => exact .inl ⟨found, hother, .refl found⟩

/-- A queue is created. -/
theorem of_queues_push {queue : Queue Bytes} (hnew : queue.redeliverEvery = before.redeliverEvery)
    (hacks : queue.acks = 0) (hevery : after.redeliverEvery = before.redeliverEvery)
    (hqueues : after.queues = before.queues.push queue) : before.Alike after where
  redeliverEvery := hevery
  size := by rw [hqueues, Array.size_push]; exact Nat.le_succ _
  queues {number found} hfound := by
    rw [hqueues, Array.getElem?_push] at hfound
    split at hfound
    next hnumber =>
      cases hfound
      exact .inr ⟨Nat.le_of_eq hnumber.symm, hnew, hacks⟩
    next => exact .inl ⟨found, hfound, .refl found⟩

theorem pushTo (hub : Hub) (data : Bytes) (number : Nat) : hub.Alike (hub.pushTo data number) := by
  rw [Hub.pushTo]
  split
  next => exact refl hub
  next queue hfound =>
    exact of_queue hfound (.push queue { data }) (redeliverEvery_serveParked _ _ _)
      (queues_serveParked _ _ _)

theorem pushAll (hub : Hub) (data : Bytes) (numbers : List Nat) :
    hub.Alike (numbers.foldl (fun hub number => hub.pushTo data number) hub) := by
  induction numbers generalizing hub with
  | nil => exact refl hub
  | cons number rest ih => exact (pushTo hub data number).trans (ih _)

theorem countWrite (hub : Hub) (status : WriteStatus) : hub.Alike (hub.countWrite status) := by
  cases status <;> exact of_eq rfl rfl

theorem publish (hub : Hub) (path : String) (data : Bytes) :
    hub.Alike (hub.publish path data).2 := by
  rw [Hub.publish]
  split
  · exact countWrite hub .failed
  · split
    · exact countWrite hub .failed
    · have hadmitted : hub.Alike { hub with writes := hub.writes + 1 } := of_eq rfl rfl
      dsimp only
      split
      · exact hadmitted.trans (countWrite _ .throttled)
      · exact (hadmitted.trans (pushAll _ data _)).trans (countWrite _ .ok)

theorem write (hub : Hub) (handle : Handle) (data : Bytes) :
    hub.Alike (hub.write handle data).2 := by
  rw [Hub.write]
  split
  · exact publish hub _ data
  · exact refl hub

theorem read (hub : Hub) (handle : Handle) : hub.Alike (hub.read handle).2 := by
  rw [Hub.read]
  split
  next => exact refl hub
  next number queue reader hheld =>
    have halike := Queue.Alike.read queue
    split
    next => exact refl hub
    next handover changed hread =>
      rw [hread] at halike
      exact of_queue (found_of_heldQueue? hheld) halike rfl rfl

theorem request (hub : Hub) (handle : Handle) : hub.Alike (hub.request handle).2 := by
  rw [Hub.request]
  split
  next => exact of_eq rfl rfl
  next number queue reader hheld =>
    have halike := Queue.Alike.request queue reader hub.awaited.size
    split
    next => exact of_eq rfl rfl
    next handover changed hrequest =>
      rw [hrequest] at halike
      exact of_queue (found_of_heldQueue? hheld) halike rfl rfl
    next changed hrequest =>
      rw [hrequest] at halike
      exact of_queue (found_of_heldQueue? hheld) halike rfl rfl

theorem dropReads (hub : Hub) (number : Nat) (reader : UInt64) :
    hub.Alike (hub.dropReads number reader) := by
  rw [Hub.dropReads]
  split
  next => exact refl hub
  next queue hfound =>
    have hdrop : queue.Alike (queue.drop reader).2 := ⟨rfl, rfl, id⟩
    refine of_queue hfound hdrop (redeliverEvery_resolveAll _ _ _) ?_
    exact queues_resolveAll _ _ _

theorem closeHandle (hub : Hub) (handle : Handle) : hub.Alike (hub.closeHandle handle) := by
  rw [Hub.closeHandle]
  split
  · exact of_eq rfl rfl
  · exact (dropReads hub _ _).trans (of_eq rfl rfl)
  · exact refl hub

theorem shutQueues (hub : Hub) (numbers : List Nat) : hub.Alike (hub.shutQueues numbers) := by
  induction numbers generalizing hub with
  | nil => exact refl hub
  | cons number rest ih =>
    refine trans ?_ (ih (hub.shutQueue number))
    rw [shutQueue]
    split
    next => exact refl hub
    next queue hfound =>
      have hshut : queue.Alike queue.shutDown.2 := ⟨rfl, rfl, fun hopen => by cases hopen⟩
      refine of_queue hfound hshut (redeliverEvery_resolveAll _ _ _) ?_
      exact queues_resolveAll _ _ _

theorem createGroup (hub : Hub) (group : GroupSpec) : hub.Alike (hub.createGroup group).2 := by
  rw [Hub.createGroup]
  split
  · exact refl hub
  · split
    · exact refl hub
    · split
      · exact refl hub
      · dsimp only
        split
        · exact refl hub
        · exact of_queues_push rfl rfl rfl rfl

theorem nack (hub : Hub) (delivery : Delivery) : hub.Alike (hub.nack delivery).2 := by
  rw [Hub.nack]
  split
  next => exact refl hub
  next settlement changed hsettled =>
    obtain ⟨queue, hqueue, hnack⟩ := Option.bind_eq_some_iff.1 hsettled
    exact of_queue (found_of_queueOf? hqueue) (.nack hnack)
      (redeliverEvery_countSettlement _ _ _) (queues_countSettlement _ _ _)

/-- A call that acknowledges nothing leaves all queues alike. -/
theorem serve (hub : Hub) {call : Call} (hcall : ∀ delivery, call ≠ .ack delivery) :
    hub.Alike (hub.serve call).client := by
  cases call with
  | createDestination destination =>
    show hub.Alike (hub.createDestination destination).2
    rw [createDestination]
    split
    · exact refl hub
    · split
      · exact refl hub
      · split <;> exact of_eq rfl rfl
  | createGroup group => exact createGroup hub group
  | deleteGroup path name =>
    show hub.Alike (hub.deleteGroup path name).2
    rw [deleteGroup]
    split
    · exact refl hub
    · split
      · exact refl hub
      · have hforgotten : hub.Alike
            (hub.withGroups path fun groups => groups.filter fun entry => entry.1 ≠ name) :=
          of_eq rfl rfl
        exact hforgotten.trans (shutQueues _ [_])
  | deleteDestination path =>
    show hub.Alike (hub.deleteDestination path).2
    rw [deleteDestination]
    split
    · exact refl hub
    · split
      · exact refl hub
      · have hforgotten : hub.Alike
            { hub with topology := hub.topology.filter fun entry => entry.1 ≠ path } :=
          of_eq rfl rfl
        exact hforgotten.trans (shutQueues _ _)
  | shutDown =>
    show hub.Alike hub.close
    rw [close]
    split
    · exact refl hub
    · have hclosed : hub.Alike { hub with closed := true } := of_eq rfl rfl
      exact hclosed.trans (shutQueues _ _)
  | create role =>
    show hub.Alike (hub.create role).2
    unfold create
    split
    · exact refl hub
    · split <;> exact of_eq rfl rfl
  | openHandle handle =>
    show hub.Alike (hub.openHandle handle).2
    rw [openHandle]
    split
    · split <;> exact of_eq rfl rfl
    · split <;> exact of_eq rfl rfl
    · exact refl hub
  | lastError handle => exact refl hub
  | closeHandle handle => exact closeHandle hub handle
  | release handle => exact (closeHandle hub handle).trans (of_eq rfl rfl)
  | submit handle data => exact (write hub handle data).trans (of_eq rfl rfl)
  | receiptReady ticket => exact refl hub
  | takeReceipt ticket => exact refl hub
  | write handle data => exact write hub handle data
  | request handle => exact request hub handle
  | deliveryReady ticket => exact refl hub
  | takeDelivery ticket => exact refl hub
  | read handle => exact read hub handle
  | ack delivery => exact absurd rfl (hcall delivery)
  | nack delivery => exact nack hub delivery

end Alike

end Hub
end BrokerLoad
