import BrokerLoad.Proofs.Broker.Copies
import BrokerLoad.Proofs.Broker.Finality

/-!
# What is closed or deleted does not come back

A hub is closed at any moment of its life, or a group is deleted there, by itself or together with
its destination.  Whatever is done afterwards, with the hub or with the handles, tickets and
deliveries that were handed out before, the hub declines what it is asked
(`Hub.ClosesForGood`), and the queue of the group serves nobody who still holds it
(`Hub.Departs`).

What has to be shown besides is that no read is left waiting.  A ticket that is pending belongs to a
read in an open queue, the queue is shut down, and with that the ticket is answered.  An answer
stays (`Hub.Precedes`).
-/

namespace BrokerLoad
namespace Hub

open Queue (Act Event)

/-! ## Shutting down -/

theorem size_shutQueue (hub : Hub) (number : Nat) :
    (hub.shutQueue number).awaited.size = hub.awaited.size := by
  rw [shutQueue]
  split
  · rfl
  · exact size_resolveAll _ _ _

/-- An answer that there is nothing is given once more at most. -/
theorem awaited_shutQueues_of_nothing {hub : Hub} {ticket : Ticket}
    (nothing : hub.awaited[ticket]? = some .nothing) (numbers : List Nat) :
    (hub.shutQueues numbers).awaited[ticket]? = some .nothing := by
  induction numbers generalizing hub with
  | nil => exact nothing
  | cons number rest ih =>
    refine @ih (hub.shutQueue number) ?_
    rw [shutQueue]
    split
    · exact nothing
    · rw [getElem?_resolveAll]
      split
      · rfl
      · exact nothing

/-- Who waits in a queue that is shut down finds out that there is nothing to come. -/
theorem awaited_shutQueues {hub : Hub} {number : Nat} {queue : Queue Bytes} {ticket : Ticket}
    (found : hub.queues[number]? = some queue) (parked : ticket ∈ queue.parked.map Parked.ticket)
    (known : ticket < hub.awaited.size) {numbers : List Nat} (mem : number ∈ numbers) :
    (hub.shutQueues numbers).awaited[ticket]? = some .nothing := by
  induction numbers generalizing hub with
  | nil => cases mem
  | cons other rest ih =>
    by_cases hsame : number = other
    · subst hsame
      refine @awaited_shutQueues_of_nothing (hub.shutQueue number) ticket ?_ rest
      rw [shutQueue, found]
      dsimp only
      rw [getElem?_resolveAll]
      exact if_pos ⟨parked, known⟩
    · refine @ih (hub.shutQueue other) ?_ ?_ ((List.mem_cons.1 mem).resolve_left hsame)
      · rw [queues_shutQueue, found, Option.map_some, if_neg hsame]
      · rw [size_shutQueue]
        exact known

/-! ## Hubs at any moment -/

/-- What an operation tells. -/
def entriesOf (hub : Hub) : Operation → List Entry
  | .serve call => hub.entries call
  | .disown => []

/-- Hubs keep the journals of their queues, also when their owner lets go of them. -/
theorem leads_operate (hub : Hub) (operation : Operation) :
    Leads hub (hub.operate operation) (hub.entriesOf operation) := by
  cases operation with
  | serve call => exact Leads.serve hub call
  | disown => exact (Leads.close hub).trans (.of_eq rfl rfl fun _ => id)

/-- What is known of a hub at any moment. -/
structure Stands (hub : Hub) : Prop where
  accounts : ∃ moved, hub.Accounts moved
  moored : hub.IsMoored
  tells : ∃ chronicle, hub.Tells chronicle

namespace Stands

theorem fresh (throttleEvery redeliverEvery : UInt32) :
    Stands { throttleEvery, redeliverEvery } :=
  ⟨⟨_, .fresh throttleEvery redeliverEvery⟩, .fresh throttleEvery redeliverEvery,
    ⟨_, tells_fresh throttleEvery redeliverEvery⟩⟩

variable {hub : Hub} (stands : hub.Stands)
include stands

theorem named : hub.IsNamed := by
  obtain ⟨moved, haccounts⟩ := stands.accounts
  exact haccounts.named

theorem operate (operation : Operation) : (hub.operate operation).Stands := by
  obtain ⟨moved, haccounts⟩ := stands.accounts
  obtain ⟨chronicle, htells⟩ := stands.tells
  have hnext := (leads_operate hub operation chronicle htells).1
  cases operation with
  | serve call =>
    exact ⟨⟨_, haccounts.serve call⟩, stands.moored.serve haccounts.named call, _, hnext⟩
  | disown =>
    exact ⟨⟨_, haccounts.disown⟩, stands.moored.close.of_calm (.of_eq rfl rfl rfl), _, hnext⟩

theorem afterAll (operations : List Operation) : (hub.afterAll operations).Stands := by
  induction operations generalizing hub with
  | nil => exact stands
  | cons operation rest ih => exact ih (stands.operate operation)

/-- What was there is there later, and tickets keep their answers. -/
theorem precedes_afterAll (later : List Operation) : hub.Precedes (hub.afterAll later) := by
  obtain ⟨chronicle, htells⟩ := stands.tells
  induction later generalizing hub chronicle with
  | nil => exact (Leads.refl hub chronicle htells).2
  | cons operation rest ih =>
    obtain ⟨hnext, hprecedes⟩ := leads_operate hub operation chronicle htells
    exact hprecedes.trans (ih (stands.operate operation) _ hnext)

/-- Tickets keep their answers. -/
theorem take_afterAll {ticket : Ticket} (nothing : hub.awaited[ticket]? = some .nothing)
    (later : List Operation) : (hub.afterAll later).take ticket = .ok none := by
  have hne : Awaited.nothing ≠ .pending := by decide
  rw [take, (stands.precedes_afterAll later).awaited nothing hne]

/-- A ticket that is pending belongs to a read in a queue that can be reached. -/
theorem exists_parked {ticket : Ticket} (pending : hub.awaited[ticket]? = some .pending) :
    ∃ (number : Nat) (queue : Queue Bytes), hub.queues[number]? = some queue ∧
      ticket ∈ queue.parked.map Parked.ticket ∧ hub.closed = false ∧ number ∈ hub.reachable := by
  obtain ⟨chronicle, htells⟩ := stands.tells
  obtain ⟨number, queue, hqueue, hparked⟩ := htells.pending pending
  obtain ⟨journal, hagrees⟩ := htells.queues hqueue
  refine ⟨number, queue, hqueue, hparked, stands.moored.moored hqueue ?_⟩
  -- Nobody waits in a queue that was shut down.
  refine Bool.eq_false_iff.2 fun hclosed => ?_
  rw [(hagrees.keeps.shut hclosed).1] at hparked
  cases hparked

theorem lt_size_of_parked {number : Nat} {queue : Queue Bytes} {ticket : Ticket}
    (found : hub.queues[number]? = some queue)
    (parked : ticket ∈ queue.parked.map Parked.ticket) : ticket < hub.awaited.size := by
  obtain ⟨chronicle, htells⟩ := stands.tells
  obtain ⟨journal, hagrees⟩ := htells.queues found
  obtain ⟨read, hread, rfl⟩ := List.mem_map.1 parked
  exact (Array.getElem?_eq_some_iff.1 (hagrees.parked read hread)).1

/-- A hub that is closed is over. -/
theorem isOver (closed : hub.closed = true) : hub.IsOver := by
  obtain ⟨chronicle, htells⟩ := stands.tells
  refine ⟨closed, fun {number queue} hqueue => ?_⟩
  obtain ⟨journal, hagrees⟩ := htells.queues hqueue
  have hclosed : queue.closed = true := by
    cases hopen : queue.closed with
    | true => rfl
    | false => exact absurd ((stands.moored.moored hqueue hopen).1.symm.trans closed) nofun
  obtain ⟨hparked, hready⟩ := hagrees.keeps.shut hclosed
  exact ⟨hclosed, hparked, hready⟩

theorem queueNumber?_eq_none {path name : String} (gone : (path, name) ∉ hub.sites) :
    hub.queueNumber? path name = none := by
  refine Option.not_isSome_iff_eq_none.1 fun hsome => gone ?_
  exact ((isSome_queueNumber?_iff stands.named.paths).1 hsome).2

/-- No name stands for a queue that is over. -/
theorem queueNumber?_ne {number : Nat} {queue : Queue Bytes}
    (found : hub.queues[number]? = some queue) (ended : queue.IsOver) (path name : String) :
    hub.queueNumber? path name ≠ some number := by
  intro hnumber
  obtain ⟨open', hfound, hopen, -⟩ := stands.named.backlog_eq hnumber
  rw [found] at hfound
  cases hfound
  exact Bool.false_ne_true (hopen.symm.trans ended.closed)

end Stands

/-! ## A hub that is closed -/

/-- A hub, before it is closed. -/
structure ClosesForGood (hub : Hub) : Prop where
  /-- Closed, it declines what it is asked, at any later moment. -/
  declines : ∀ later, (hub.close.afterAll later).Declines
  /-- No message moves any more. -/
  lingers : ∀ later, hub.close.Lingers (hub.close.afterAll later)
  /-- Requests that were waiting are answered that there is nothing. -/
  answered : ∀ {ticket : Ticket}, hub.awaited[ticket]? = some .pending →
    ∀ later, (hub.close.afterAll later).take ticket = .ok none

theorem Stands.closesForGood {hub : Hub} (stands : hub.Stands) : hub.ClosesForGood := by
  have shut : hub.close.Stands := stands.operate (.serve .shutDown)
  have hover := shut.isOver hub.closed_close
  refine ⟨fun later => (hover.lingers_afterAll later).1.declines,
    fun later => (hover.lingers_afterAll later).2, fun hpending later => ?_⟩
  obtain ⟨number, queue, hqueue, hparked, hopen, hnumber⟩ := stands.exists_parked hpending
  refine shut.take_afterAll ?_ later
  have hlt := stands.lt_size_of_parked hqueue hparked
  rw [close, if_neg (by simp [hopen])]
  refine awaited_shutQueues ?_ hparked ?_ hnumber
  · exact hqueue
  · exact hlt

/-! ## A group that is deleted -/

/-- The queue of a number, for those who still hold it, when it is over. -/
structure ServesNobody (hub : Hub) (number : Nat) : Prop where
  /-- Nobody waits, and nothing waits to be read. -/
  queue : ∃ queue, hub.queues[number]? = some queue ∧ queue.IsOver
  /-- No name stands for the queue. -/
  unnamed : ∀ path name, hub.queueNumber? path name ≠ some number
  /-- A consumer that is opened, again or for the first time, does not hold it. -/
  openHandle : ∀ {handle : Handle} {held : Nat} {queue : Queue Bytes} {reader : UInt64},
    (hub.openHandle handle).2.heldQueue? handle = some (held, queue, reader) → held ≠ number
  /-- No write comes to it. -/
  write : ∀ handle data, (hub.write handle data).2.queues[number]? = hub.queues[number]?
  read : ∀ {handle : Handle} {queue : Queue Bytes} {reader : UInt64},
    hub.heldQueue? handle = some (number, queue, reader) → hub.read handle = (none, hub)
  /-- A request is answered that there is nothing, and so it stays. -/
  request : ∀ {handle : Handle} {queue : Queue Bytes} {reader : UInt64},
    hub.heldQueue? handle = some (number, queue, reader) →
      (hub.request handle).2.counts = hub.counts ∧
        ∀ later, ((hub.request handle).2.afterAll later).take (hub.request handle).1 = .ok none
  ack : ∀ {delivery : Delivery}, delivery.queue = number →
    hub.SettlesLate delivery (hub.ack delivery)
  nack : ∀ {delivery : Delivery}, delivery.queue = number →
    hub.SettlesLate delivery (hub.nack delivery)

/-- What a handle holds once it was opened has a name. -/
theorem queueNumber?_of_openHandle {hub : Hub} {handle : Handle} {held : Nat}
    {queue : Queue Bytes} {reader : UInt64}
    (holds : (hub.openHandle handle).2.heldQueue? handle = some (held, queue, reader)) :
    ∃ path name, hub.queueNumber? path name = some held := by
  rw [heldQueue?] at holds
  split at holds
  next path name reader' number error hhandle =>
    obtain ⟨_, -, heq⟩ := Option.map_eq_some_iff.1 holds
    cases heq
    have hput : ∀ {state : HandleState},
        (hub.putHandle handle state).handles[handle]? =
          some (.consumer path name reader (some held) error) →
            state = .consumer path name reader (some held) error := by
      intro state hstate
      rw [putHandle, Array.getElem?_setIfInBounds, if_pos rfl] at hstate
      exact Option.some.inj (Option.ite_none_right_eq_some.1 hstate).2
    rw [openHandle] at hhandle
    split at hhandle
    · split at hhandle
      · cases hput hhandle
      · cases hput hhandle
    next path' name' reader' held' error' hconsumer =>
      split at hhandle
      next number hnumber =>
        cases hput hhandle
        exact ⟨path, name, hnumber⟩
      next => cases hput hhandle
    next hpublisher hconsumer => exact absurd hhandle (hconsumer _ _ _ _ _)
  · cases holds

theorem Stands.servesNobody {hub : Hub} (stands : hub.Stands) {number : Nat}
    {queue : Queue Bytes} (found : hub.queues[number]? = some queue) (ended : queue.IsOver) :
    hub.ServesNobody number := by
  have hclosed : ∀ {other : Queue Bytes}, hub.queues[number]? = some other →
      other.closed = true := by
    intro other hother
    rw [found] at hother
    cases hother
    exact ended.closed
  have hheld : ∀ {handle : Handle} {one : Queue Bytes} {reader : UInt64},
      hub.heldQueue? handle = some (number, one, reader) →
        ∀ {held : Nat} {other : Queue Bytes} {reader' : UInt64},
          hub.heldQueue? handle = some (held, other, reader') → other.closed = true := by
    intro handle one reader hone held other reader' hother
    rw [hone] at hother
    cases hother
    exact hclosed (found_of_heldQueue? hone)
  refine {
    queue := ⟨queue, found, ended⟩
    unnamed := stands.queueNumber?_ne found ended
    openHandle := fun hopened hsame => ?_
    write := fun handle data => ?_
    read := fun hone => read_of_closed (hheld hone)
    request := fun {handle _ _} hone => ⟨?_, fun later => ?_⟩
    ack := fun hnumber => settlesLate_ack fun hother => hclosed (hnumber ▸ hother)
    nack := fun hnumber => settlesLate_nack fun hother => hclosed (hnumber ▸ hother) }
  · obtain ⟨path, name, hnumber⟩ := queueNumber?_of_openHandle hopened
    exact stands.queueNumber?_ne found ended path name (hsame ▸ hnumber)
  · rw [hub.queues_write handle data number, found, Option.map_some, ended.performAll_put]
  · rw [request_of_closed (hheld hone)]
    rfl
  · refine (stands.operate (.serve (.request handle))).take_afterAll ?_ later
    show (hub.request handle).2.awaited[(hub.request handle).1]? = some .nothing
    rw [request_of_closed (hheld hone)]
    simp [ticketFor]

/-- A name that stands for no group. -/
structure IsVacant (hub : Hub) (path name : String) : Prop where
  queueNumber? : hub.queueNumber? path name = none
  backlog : hub.backlog path name = 0
  /-- A consumer of that name cannot be opened. -/
  openHandle : ∀ {handle : Handle} {reader : UInt64} {held : Option Nat} {error : String},
    hub.handles[handle]? = some (.consumer path name reader held error) →
      (hub.openHandle handle).1 = false

theorem isVacant_of_queueNumber? {hub : Hub} {path name : String}
    (nothing : hub.queueNumber? path name = none) : hub.IsVacant path name where
  queueNumber? := nothing
  backlog := by
    rw [Hub.backlog, nothing]
    rfl
  openHandle hhandle := by
    rw [Hub.openHandle, hhandle]
    dsimp only
    rw [nothing]

/-- A group that is there, and the hub after it was deleted. -/
structure Departs (hub after : Hub) (path name : String) (number : Nat) : Prop where
  /-- Its queue serves nobody, at any later moment. -/
  servesNobody : ∀ later, (after.afterAll later).ServesNobody number
  /-- Nothing becomes outstanding in it. -/
  wanes : ∀ later, ∃ queue last : Queue Bytes, after.queues[number]? = some queue ∧
    (after.afterAll later).queues[number]? = some last ∧ queue.Wanes last
  /-- All that happens in it is that deliveries are settled. -/
  story : ∀ later, ∀ event ∈ storyOf number after later, event.IsLast
  /-- Requests that were waiting in it are answered that there is nothing. -/
  answered : ∀ {queue : Queue Bytes} {ticket : Ticket}, hub.queues[number]? = some queue →
    ticket ∈ queue.parked.map Parked.ticket →
      ∀ later, (after.afterAll later).take ticket = .ok none
  /-- The name stands for nothing, until a group of that name is created. -/
  nameless : ∀ later, (∀ group, .serve (.createGroup group) ∈ later →
    ¬ (group.destination = path ∧ group.name = name)) → (after.afterAll later).IsVacant path name

/-- A queue that is shut down while its group loses its name. -/
theorem Stands.departs {hub between after : Hub} (stands : hub.Stands) (left : after.Stands)
    {path name : String} {number : Nat} {numbers : List Nat}
    (group : hub.queueNumber? path name = some number)
    (shuts : after = between.shutQueues numbers) (mem : number ∈ numbers)
    (hqueues : between.queues = hub.queues) (hawaited : between.awaited = hub.awaited)
    (gone : after.queueNumber? path name = none) : hub.Departs after path name number := by
  obtain ⟨open', hfound, -, -⟩ := stands.named.backlog_eq group
  have hshut : after.queues[number]? = some open'.shutDown.2 := by
    rw [shuts, getElem?_shutQueues, hqueues, hfound, Option.map_some, if_pos mem]
  have hover : open'.shutDown.2.IsOver := ⟨rfl, rfl, rfl⟩
  refine {
    servesNobody := fun later => ?_
    wanes := fun later => ⟨_, _, hshut, queues_afterAll hshut later, (hover.performAll _).1⟩
    story := fun later => ?_
    answered := fun {queue ticket} hqueue hparked later => ?_
    nameless := fun later hnever => ?_ }
  · exact (left.afterAll later).servesNobody (queues_afterAll hshut later)
      (hover.performAll _).1.ended
  · rw [storyOf_eq hshut]
    exact (hover.performAll _).2
  · refine left.take_afterAll ?_ later
    rw [shuts]
    exact awaited_shutQueues (hqueues ▸ hqueue) hparked
      (hawaited ▸ stands.lt_size_of_parked hqueue hparked) mem
  · obtain ⟨moved, haccounts⟩ := left.accounts
    exact isVacant_of_queueNumber? (queueNumber?_afterAll_eq_none haccounts gone later hnever)

section Deleting

variable {hub : Hub} (stands : hub.Stands) {path name : String} {number : Nat}
  (group : hub.queueNumber? path name = some number)
include stands group

/-- A group is deleted. -/
theorem Stands.departs_deleteGroup :
    hub.Departs (hub.deleteGroup path name).2 path name number := by
  have hopen : ¬ hub.closed = true := (Option.ite_none_left_eq_some.1 group).1
  have hleft := stands.operate (.serve (.deleteGroup path name))
  have hafter : (hub.deleteGroup path name).2 = shutQueues
      (hub.withGroups path fun groups => groups.filter fun entry => entry.1 ≠ name) [number] := by
    rw [deleteGroup, if_neg hopen, group]
    rfl
  refine stands.departs hleft group hafter (List.mem_singleton_self number) rfl rfl ?_
  refine hleft.queueNumber?_eq_none fun hsite => ?_
  replace hsite : (path, name) ∈ (hub.deleteGroup path name).2.sites := hsite
  rw [hafter, sites, places_shutQueues, places_withGroups_filter] at hsite
  obtain ⟨place, hplace, heq⟩ := List.mem_map.1 hsite
  refine of_decide_eq_true (List.mem_filter.1 hplace).2 ?_
  exact ⟨congrArg Prod.fst heq, congrArg Prod.snd heq⟩

/-- A destination is deleted, with all of its groups. -/
theorem Stands.departs_deleteDestination :
    hub.Departs (hub.deleteDestination path).2 path name number := by
  obtain ⟨hopen, hgroups⟩ := Option.ite_none_left_eq_some.1 group
  obtain ⟨groups, hpath, hname⟩ := Option.bind_eq_some_iff.1 hgroups
  have hleft := stands.operate (.serve (.deleteDestination path))
  have hafter : (hub.deleteDestination path).2 = shutQueues
      { hub with topology := hub.topology.filter fun entry => entry.1 ≠ path }
      (groups.map Prod.snd) := by
    rw [deleteDestination, if_neg hopen, hpath]
  have hmem : number ∈ groups.map Prod.snd := by
    obtain ⟨before, behind, rfl, -⟩ := List.lookup_eq_some_iff.1 hname
    simp
  refine stands.departs hleft group hafter hmem rfl rfl ?_
  refine hleft.queueNumber?_eq_none fun hsite => ?_
  replace hsite : (path, name) ∈ (hub.deleteDestination path).2.sites := hsite
  rw [hafter, sites, places_shutQueues, places_filter_topology] at hsite
  obtain ⟨place, hplace, heq⟩ := List.mem_map.1 hsite
  exact of_decide_eq_true (List.mem_filter.1 hplace).2 (congrArg Prod.fst heq)

end Deleting

/-- Whatever has been done with a hub, closing it is final.  So is deleting a group, by itself or
together with its destination, for those who still hold its queue. -/
theorem closing_is_final (throttleEvery redeliverEvery : UInt32) (operations : List Operation) :
    let hub : Hub := afterAll { throttleEvery, redeliverEvery } operations
    hub.ClosesForGood ∧
      ∀ path name number, hub.queueNumber? path name = some number →
        hub.Departs (hub.deleteGroup path name).2 path name number ∧
          hub.Departs (hub.deleteDestination path).2 path name number := by
  intro hub
  have hstands := (Stands.fresh throttleEvery redeliverEvery).afterAll operations
  exact ⟨hstands.closesForGood, fun path name number hgroup =>
    ⟨hstands.departs_deleteGroup hgroup, hstands.departs_deleteDestination hgroup⟩⟩

/-- Two messages are read by a consumer who then waits for a third.  The hub is closed, the wait is
over, one of the messages is refused and does not come again, and a new read finds nothing. -/
example :
    let before := ([.createDestination { path := "orders" },
      .createGroup { destination := "orders", name := "billing" }, .create (.publisher "orders"),
      .openHandle 0, .create (.consumer "orders" "billing" defaultPrefetch), .openHandle 1,
      .write 0 [7], .write 0 [8], .read 1, .read 1, .request 1] : List Call).map .serve
    let hub : Hub := (afterAll {} before).close
    let delivery : Delivery := { payload := [7], queue := 0, token := 1 }
    hub.take 0 = .ok none ∧ (hub.nack delivery).1 = true ∧
      (hub.nack delivery).2.counts.redeliveries = 0 ∧ ((hub.nack delivery).2.read 1).1 = none ∧
      (hub.write 0 [9]).1.status = .failed := by
  decide +kernel

end Hub
end BrokerLoad
