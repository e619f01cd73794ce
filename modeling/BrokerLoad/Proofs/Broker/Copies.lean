import BrokerLoad.Proofs.Broker.Attempts
import BrokerLoad.Proofs.Broker.Custody
import BrokerLoad.Proofs.Broker.Labels
import BrokerLoad.Proofs.Broker.Publishing

/-!
# Every copy of a write is somewhere

A write puts a copy into the queue of each group.  In a hub that makes no duplicates, it is known of
each copy in the queue of a group where it is, as long as the group is there
(`Hub.copies_in_custody`).  It is ready, or outstanding, or was acknowledged or given up.  However
often it is refused, it is delivered as often as the group asks for, once if the group asks for no
deliveries at all, and is given up when the last of these deliveries is refused.

Copies of the same content are told apart by labels.  A queue of labelled copies is, but for the
labels, the queue of the group.
-/

namespace BrokerLoad
namespace Queue

variable {δ : Type} [DecidableEq δ]

/-- Whatever is done to a queue without duplicates, as long as it is open it has its messages in
custody once they are labelled. -/
theorem exists_custody_labelled (maxDeliveries : UInt32) (acts : List (Act δ))
    (isOpen : ((Queue.create maxDeliveries 0 : Queue δ).performAll acts).closed = false) :
    ∃ (copies : Queue (δ × Nat)) (told : List (Event (δ × Nat)))
      (displaced : List (Handover (δ × Nat))),
      copies.map Prod.fst = (Queue.create maxDeliveries 0 : Queue δ).performAll acts ∧
        told.map (Event.map Prod.fst) = (Queue.create maxDeliveries 0 : Queue δ).story acts ∧
        copies.Custody (max 1 maxDeliveries.toNat) told [] displaced := by
  have hqueue := map_performAll (Prod.fst : δ × Nat → δ) (.create maxDeliveries 0) (labelled acts)
  have hstory := map_story (Prod.fst : δ × Nat → δ) (.create maxDeliveries 0) (labelled acts)
  rw [map_fst_labelled] at hqueue hstory
  have hopen : ((Queue.create maxDeliveries 0 : Queue (δ × Nat)).performAll
      (labelled acts)).closed = false := by
    rw [← isOpen]
    exact congrArg Queue.closed hqueue
  obtain ⟨displaced, hcustody⟩ := custody_performAll maxDeliveries (labelled acts) hopen
    (nodup_puts_labelled _ acts)
  exact ⟨_, _, displaced, hqueue, hstory, hcustody⟩

end Queue

namespace Hub

open Queue (Act Event timesDelivered)

/-! ## Hubs that are open are held -/

theorem closed_close (hub : Hub) : hub.close.closed = true := by
  rw [close]
  split
  · assumption
  · exact closed_shutQueues _ _

/-- The owner closes a hub before it lets go of it. -/
theorem owned_of_isOpen {hub : Hub} (owned : hub.closed = false → hub.owned = true)
    (operations : List Operation) (isOpen : (hub.afterAll operations).closed = false) :
    (hub.afterAll operations).owned = true := by
  induction operations generalizing hub with
  | nil => exact owned isOpen
  | cons operation rest ih =>
    refine @ih (hub.operate operation) (fun hopen => ?_) isOpen
    cases operation with
    | serve call =>
      have hserved := Advances.serve hub call
      refine hserved.owned.trans (owned ?_)
      exact Bool.eq_false_iff.2 fun hshut =>
        Bool.false_ne_true (hopen.symm.trans (hserved.shut hshut))
    | disown => exact absurd (hopen.symm.trans hub.closed_close) nofun

/-! ## What a refusal is answered -/

section Nack

variable {hub : Hub} {delivery : Delivery} {after : Queue Bytes}

/-- A message goes round again. -/
theorem counts_nack_of_redelivered {served : Option (Ticket × Handover Bytes)}
    (hnack : ((hub.queueOf? delivery).bind fun queue => queue.nack delivery.token) =
      some (.redelivered served, after)) :
    (hub.nack delivery).1 = true ∧
      (hub.nack delivery).2.counts.redeliveries = hub.counts.redeliveries + 1 ∧
      (hub.nack delivery).2.counts.deadLettered = hub.counts.deadLettered := by
  rw [nack, hnack]
  cases served <;> exact ⟨rfl, rfl, rfl⟩

/-- A message is given up. -/
theorem counts_nack_of_deadLettered
    (hnack : ((hub.queueOf? delivery).bind fun queue => queue.nack delivery.token) =
      some (.deadLettered, after)) :
    (hub.nack delivery).1 = true ∧
      (hub.nack delivery).2.counts.redeliveries = hub.counts.redeliveries ∧
      (hub.nack delivery).2.counts.deadLettered = hub.counts.deadLettered + 1 := by
  rw [nack, hnack]
  exact ⟨rfl, rfl, rfl⟩

end Nack

/-! ## Custody -/

/-- The queue of a group has its copies in custody.  It is the queue of the number, and what has
happened in it is its story, but for the labels that tell copies apart. -/
structure InCustody (hub : Hub) (number limit : Nat) (story : List (Event Bytes))
    (copies : Queue (Bytes × Nat)) (told : List (Event (Bytes × Nat)))
    (displaced : List (Handover (Bytes × Nat))) : Prop where
  queue : hub.queues[number]? = some (copies.map Prod.fst)
  story : told.map (Event.map Prod.fst) = story
  /-- A copy is in one place, and knows how often it was delivered. -/
  custody : copies.Custody limit told [] displaced
  /-- An outstanding delivery of a copy can be refused, and the copy goes round again unless that
  was the last delivery that the group asks for. -/
  again : ∀ {delivery : Delivery} {message : Message (Bytes × Nat)}, delivery.queue = number →
    copies.find? delivery.token = some message → timesDelivered told message.data < limit →
      (hub.nack delivery).1 = true ∧
        (hub.nack delivery).2.counts.redeliveries = hub.counts.redeliveries + 1 ∧
        (hub.nack delivery).2.counts.deadLettered = hub.counts.deadLettered
  /-- It is given up if it was. -/
  givenUp : ∀ {delivery : Delivery} {message : Message (Bytes × Nat)}, delivery.queue = number →
    copies.find? delivery.token = some message → timesDelivered told message.data = limit →
      (hub.nack delivery).1 = true ∧
        (hub.nack delivery).2.counts.redeliveries = hub.counts.redeliveries ∧
        (hub.nack delivery).2.counts.deadLettered = hub.counts.deadLettered + 1

/-- What is done to a queue without labels is answered as with labels. -/
theorem InCustody.of_custody {hub : Hub} {number limit : Nat} {copies : Queue (Bytes × Nat)}
    {told : List (Event (Bytes × Nat))} {displaced : List (Handover (Bytes × Nat))}
    (queue : hub.queues[number]? = some (copies.map Prod.fst)) (held : hub.holds number = true)
    (custody : copies.Custody limit told [] displaced) :
    hub.InCustody number limit (told.map (Event.map Prod.fst)) copies told displaced := by
  have hnack : ∀ delivery : Delivery, delivery.queue = number →
      ((hub.queueOf? delivery).bind fun queue => queue.nack delivery.token) =
        (copies.nack delivery.token).map
          (Prod.map (Queue.Settlement.map Prod.fst) (Queue.map Prod.fst)) := by
    rintro delivery rfl
    rw [queueOf?, if_pos held, queue, Option.bind_some, Queue.nack_map]
  refine ⟨queue, rfl, custody, ?_, ?_⟩
  · intro delivery message hnumber hfind hless
    rcases custody.nack hfind with ⟨-, served, after, hcopies⟩ | ⟨hlast, -⟩
    · have hsettled := hnack delivery hnumber
      rw [hcopies] at hsettled
      exact counts_nack_of_redelivered hsettled
    · exact absurd hlast (Nat.ne_of_lt hless)
  · intro delivery message hnumber hfind hlast
    rcases custody.nack hfind with ⟨hless, -⟩ | ⟨-, hcopies⟩
    · exact absurd hlast (Nat.ne_of_lt hless)
    · have hsettled := hnack delivery hnumber
      rw [hcopies] at hsettled
      exact counts_nack_of_deadLettered hsettled

/-! ## Groups -/

/-- A group that is created gets the next queue. -/
theorem getElem?_createGroup {hub : Hub} {group : GroupSpec}
    (created : (hub.createGroup group).1 = .success) :
    (hub.createGroup group).2.queues[hub.queues.size]? =
      some (.create group.maxDeliveries hub.redeliverEvery) := by
  rcases hub.createGroup_cases group with ⟨hnot, -⟩ | ⟨-, hqueues, -⟩
  · exact absurd created hnot
  · rw [hqueues]
    exact Array.getElem?_push_size

/-- The story of a queue begins when the queue is there. -/
theorem storyOf_of_new {hub : Hub} {number : Nat} {before : List Operation}
    (new : (hub.afterAll before).queues[number]? = none) (operation : Operation)
    (later : List Operation) : storyOf number hub (before ++ operation :: later) =
      storyOf number ((hub.afterAll before).operate operation) later := by
  rw [storyOf_append, storyOf_eq_nil new, storyOf, new]
  rfl

/-- A group that is there has a queue that is open and held. -/
theorem exists_open_of_queueNumber? {throttleEvery : UInt32} {operations : List Operation}
    {path name : String} {number : Nat}
    (there : (afterAll { throttleEvery } operations).queueNumber? path name = some number) :
    ∃ queue : Queue Bytes, (afterAll { throttleEvery } operations).queues[number]? = some queue ∧
      queue.closed = false ∧ (afterAll { throttleEvery } operations).holds number = true := by
  have hnamed := (accounts_afterAll (.fresh throttleEvery 0) operations).named
  obtain ⟨queue, hqueue, hopen, -⟩ := hnamed.backlog_eq there
  have hhub : (afterAll { throttleEvery } operations).closed = false := by
    rw [queueNumber?] at there
    simpa using (Option.ite_none_left_eq_some.1 there).1
  have howned := owned_of_isOpen (fun _ => rfl) _ hhub
  have hplace := mem_places_of_queueNumber? there
  exact ⟨queue, hqueue, hopen,
    (holds_iff _ number).2 (.inl ⟨by rw [isHeld, howned]; rfl, _, _, hplace⟩)⟩

/-- A group in a hub that makes no duplicates has its copies in custody, as long as it is there. -/
theorem copies_in_custody (throttleEvery : UInt32) (before later : List Operation)
    {group : GroupSpec}
    (created : ((afterAll { throttleEvery } before).createGroup group).1 = .success)
    (stays :
      (afterAll { throttleEvery } (before ++ .serve (.createGroup group) :: later)).queueNumber?
        group.destination group.name = some (afterAll { throttleEvery } before).queues.size) :
    ∃ copies told displaced,
      (afterAll { throttleEvery } (before ++ .serve (.createGroup group) :: later)).InCustody
        (afterAll { throttleEvery } before).queues.size (max 1 group.maxDeliveries.toNat)
        (storyOf (afterAll { throttleEvery } before).queues.size { throttleEvery }
          (before ++ .serve (.createGroup group) :: later)) copies told displaced := by
  have hnew := getElem?_createGroup created
  rw [redeliverEvery_afterAll] at hnew
  have hlast := queues_afterAll hnew later
  -- What is done to the queue from then on is its history.
  have hstory := (storyOf_of_new (Array.getElem?_eq_none (Nat.le_refl _))
    (.serve (.createGroup group)) later).trans (storyOf_eq hnew later)
  have hafter : afterAll { throttleEvery } (before ++ .serve (.createGroup group) :: later) =
      ((afterAll { throttleEvery } before).createGroup group).2.afterAll later :=
    List.foldl_append
  obtain ⟨queue, hqueue, hopen, hheld⟩ := exists_open_of_queueNumber? stays
  rw [hafter] at hqueue hheld ⊢
  obtain rfl := Option.some.inj (hlast.symm.trans hqueue)
  obtain ⟨copies, told, displaced, hcopies, htold, hcustody⟩ :=
    Queue.exists_custody_labelled group.maxDeliveries _ hopen
  refine ⟨copies, told, displaced, ?_⟩
  rw [hstory, ← htold]
  exact .of_custody (hlast.trans (congrArg some hcopies.symm)) hheld hcustody

/-- Two copies of the same content are written to a group that asks for two deliveries.  The first
one is refused twice and given up, and the second one is refused once and read again. -/
theorem copies_in_custody_refused_twice :
    let before := ([.createDestination { path := "orders" }] : List Call).map .serve
    let group : GroupSpec := { destination := "orders", name := "billing", maxDeliveries := 2 }
    let later := ([.create (.publisher "orders"), .openHandle 0,
      .create (.consumer "orders" "billing" defaultPrefetch), .openHandle 1, .write 0 [7],
      .write 0 [7], .read 1, .read 1, .nack { payload := [7], queue := 0, token := 1 }, .read 1,
      .nack { payload := [7], queue := 0, token := 3 },
      .nack { payload := [7], queue := 0, token := 2 }, .read 1] : List Call).map .serve
    let operations := before ++ .serve (.createGroup group) :: later
    (afterAll {} operations).counts.redeliveries = 2 ∧
      (afterAll {} operations).counts.deadLettered = 1 ∧
      ∃ copies told displaced,
        (afterAll {} operations).InCustody 0 2 (storyOf 0 {} operations) copies told displaced := by
  intro before group later operations
  have hcreated : ((afterAll {} before).createGroup group).1 = .success := by decide +kernel
  have hstays : (afterAll {} operations).queueNumber? group.destination group.name =
      some (afterAll {} before).queues.size := by decide +kernel
  exact ⟨by decide +kernel, by decide +kernel, copies_in_custody 0 before later hcreated hstays⟩

end Hub
end BrokerLoad
