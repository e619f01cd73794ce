import BrokerLoad.Proofs.Broker.Journal
import BrokerLoad.Proofs.Broker.Posts

/-!
# The chronicle of a hub

A hub serves calls one after another (`Hub.after`), whoever made them.  Its *chronicle* says
what its callers see of its queues in the meantime, call by call, and is read off each call
and the hub as it is before it and after it (`Hub.entries`):

* which queues got a copy of a message, be it because it was written to their destination
  and accepted, or because the queue sends a settled delivery round again,
* which deliveries were read, and
* which requests were parked in which queue.

What became of the requests is not in the chronicle but in the hub: `Hub.arrivedFrom` lists
the deliveries of a queue that are there at tickets.
-/

namespace BrokerLoad

/-- The delivery of a queue that is at a ticket, if one is. -/
def Awaited.from? (number : Nat) : Awaited → Option Delivery
  | .arrived delivery => if delivery.queue = number then some delivery else none
  | _ => none

namespace Hub

/-- The hub after it has served calls, one after another. -/
def after (hub : Hub) (calls : List Call) : Hub :=
  calls.foldl (fun hub call => (hub.serve call).client) hub

/-! ## Entries -/

/-- What callers see of the queues of a hub. -/
inductive Entry where
  /-- A message was put into a queue. -/
  | put (number : Nat) (data : Bytes)
  /-- A delivery was read. -/
  | taken (delivery : Delivery)
  /-- A request was parked in a queue. -/
  | parked (number : Nat) (ticket : Ticket)

namespace Entry

/-- The number of the queue that an entry is about. -/
def number : Entry → Nat
  | .put number _ => number
  | .taken delivery => delivery.queue
  | .parked number _ => number

/-- What was put into a queue, if anything was. -/
def put? (number : Nat) : Entry → Option Bytes
  | .put other data => if other = number then some data else none
  | _ => none

/-- What was read from a queue, if anything was. -/
def taken? (number : Nat) : Entry → Option Delivery
  | .taken delivery => if delivery.queue = number then some delivery else none
  | _ => none

/-- The ticket of the request that was parked in a queue, if one was. -/
def parked? (number : Nat) : Entry → Option Ticket
  | .parked other ticket => if other = number then some ticket else none
  | _ => none

end Entry

/-- What was put into a queue, in order. -/
def putInto (number : Nat) (chronicle : List Entry) : List Bytes :=
  chronicle.filterMap (Entry.put? number)

/-- What was read from a queue, in order. -/
def takenFrom (number : Nat) (chronicle : List Entry) : List Delivery :=
  chronicle.filterMap (Entry.taken? number)

/-- The tickets of the requests that were parked in a queue, in order. -/
def parkedIn (number : Nat) (chronicle : List Entry) : List Ticket :=
  chronicle.filterMap (Entry.parked? number)

section Projections

variable (number : Nat) (chronicle more : List Entry)

@[simp] theorem putInto_append :
    putInto number (chronicle ++ more) = putInto number chronicle ++ putInto number more :=
  List.filterMap_append

@[simp] theorem takenFrom_append :
    takenFrom number (chronicle ++ more) = takenFrom number chronicle ++ takenFrom number more :=
  List.filterMap_append

@[simp] theorem parkedIn_append :
    parkedIn number (chronicle ++ more) = parkedIn number chronicle ++ parkedIn number more :=
  List.filterMap_append

variable {number more}

/-- Entries about other queues say nothing about a queue. -/
theorem nil_of_number_ne (number : Nat) {more : List Entry}
    (hother : ∀ entry ∈ more, entry.number ≠ number) :
    putInto number more = [] ∧ takenFrom number more = [] ∧ parkedIn number more = [] := by
  refine ⟨List.filterMap_eq_nil_iff.2 fun entry hentry => ?_,
    List.filterMap_eq_nil_iff.2 fun entry hentry => ?_,
    List.filterMap_eq_nil_iff.2 fun entry hentry => ?_⟩ <;>
  · have hne := hother entry hentry
    cases entry with
    | put => first | exact if_neg hne | rfl
    | taken => first | exact if_neg hne | rfl
    | parked => first | exact if_neg hne | rfl

/-- A request that was parked in a queue has an entry about it. -/
theorem mem_parkedIn {ticket : Ticket} :
    ticket ∈ parkedIn number more ↔ .parked number ticket ∈ more := by
  rw [parkedIn, List.mem_filterMap]
  constructor
  · rintro ⟨entry, hentry, hticket⟩
    cases entry with
    | put => cases hticket
    | taken => cases hticket
    | parked other ticket' =>
      obtain ⟨rfl, heq⟩ := Option.ite_none_right_eq_some.1 hticket
      exact Option.some.inj heq ▸ hentry
  · exact fun hentry => ⟨_, hentry, if_pos rfl⟩

@[simp] theorem putInto_map_put (data : List Bytes) :
    putInto number (data.map (.put number)) = data := by
  rw [putInto, List.filterMap_map]
  exact (List.filterMap_congr fun _ _ => if_pos rfl).trans List.filterMap_some

@[simp] theorem takenFrom_map_put (other : Nat) (data : List Bytes) :
    takenFrom number (data.map (.put other)) = [] := by
  rw [takenFrom, List.filterMap_map]
  exact List.filterMap_eq_nil_iff.2 fun _ _ => rfl

@[simp] theorem parkedIn_map_put (other : Nat) (data : List Bytes) :
    parkedIn number (data.map (.put other)) = [] := by
  rw [parkedIn, List.filterMap_map]
  exact List.filterMap_eq_nil_iff.2 fun _ _ => rfl

end Projections

/-! ## The entries of a call -/

/-- The queues that get a copy of what is written through a handle: those of the groups of
its destination, if the write is accepted. -/
def targets (hub : Hub) (handle : Handle) (data : Bytes) : List Nat :=
  match hub.handles[handle]? with
  | some (.publisher path _ _) =>
    if (hub.write handle data).1.status = .ok then ((hub.groups? path).getD []).map Prod.snd
    else []
  | _ => []

/-- What goes round again when a delivery is settled so. -/
def again (hub : Hub) (delivery : Delivery)
    (settle : Queue Bytes → Option (Queue.Settlement Bytes × Queue Bytes)) : List Entry :=
  match hub.queueOf? delivery with
  | some queue => (queue.again delivery.token (settle queue)).map (.put delivery.queue)
  | none => []

/-- The entries of a call. -/
def entries (hub : Hub) : Call → List Entry
  | .write handle data => (hub.targets handle data).map fun number => .put number data
  | .submit handle data => (hub.targets handle data).map fun number => .put number data
  | .read handle => (hub.read handle).1.toList.map .taken
  | .request handle =>
    match hub.heldQueue? handle with
    | some (number, _, _) =>
      if (hub.request handle).2.awaited[(hub.request handle).1]? = some .pending then
        [.parked number (hub.request handle).1]
      else []
    | none => []
  | .ack delivery => hub.again delivery fun queue => queue.ack delivery.token
  | .nack delivery => hub.again delivery fun queue => queue.nack delivery.token
  | _ => []

/-- The entries of several calls that a hub serves one after another. -/
def chronicle (hub : Hub) : List Call → List Entry
  | [] => []
  | call :: calls => hub.entries call ++ (hub.serve call).client.chronicle calls

/-! ## Tickets -/

/-- The deliveries of a queue that are there at tickets, by ticket. -/
def arrivedFrom (hub : Hub) (number : Nat) : List Delivery :=
  hub.awaited.toList.filterMap (Awaited.from? number)

/-- Whether a ticket was not broken by a reader that has closed. -/
def unbroken (hub : Hub) (ticket : Ticket) : Bool :=
  hub.awaited[ticket]? ≠ some .broken

/-- A list that gets a value in the place of one that does not count has what it had and, if
the new value counts, that. -/
theorem perm_filterMap_set {α β : Type} {f : α → Option β} {l : List α} {i : Nat} {old : α}
    (hold : l[i]? = some old) (hnone : f old = none) (new : α) :
    ((l.set i new).filterMap f).Perm (l.filterMap f ++ (f new).toList) := by
  induction l generalizing i with
  | nil => cases hold
  | cons a rest ih =>
    cases i with
    | zero =>
      obtain rfl : a = old := Option.some.inj hold
      rw [List.set_cons_zero, List.filterMap_cons, List.filterMap_cons, hnone]
      cases f new with
      | none => rw [Option.toList_none, List.append_nil]
      | some b => exact (List.perm_append_singleton b _).symm
    | succ i =>
      rw [List.set_cons_succ, List.filterMap_cons, List.filterMap_cons]
      cases f a with
      | none => exact ih hold
      | some b => exact (ih hold).cons b

theorem getElem?_resolve (hub : Hub) (answer : Awaited) (ticket other : Ticket) :
    (hub.resolve answer ticket).awaited[other]? =
      if ticket = other ∧ ticket < hub.awaited.size then some answer else hub.awaited[other]? := by
  rw [resolve, Array.getElem?_setIfInBounds]
  by_cases hother : ticket = other
  · subst hother
    by_cases hlt : ticket < hub.awaited.size
    · simp [hlt]
    · simp [hlt]
  · rw [if_neg hother, if_neg fun h => hother h.1]

/-- What is at tickets that are answered depends on what was at tickets, and nothing else. -/
theorem awaited_resolveAll (answer : Awaited) (hub : Hub) (tickets : List Ticket) :
    (hub.resolveAll answer tickets).awaited =
      tickets.foldl (fun awaited ticket => awaited.setIfInBounds ticket answer) hub.awaited := by
  induction tickets generalizing hub with
  | nil => rfl
  | cons ticket rest ih => exact ih _

@[simp] theorem size_resolveAll (answer : Awaited) (hub : Hub) (tickets : List Ticket) :
    (hub.resolveAll answer tickets).awaited.size = hub.awaited.size := by
  induction tickets generalizing hub with
  | nil => rfl
  | cons ticket rest ih => exact (ih _).trans Array.size_setIfInBounds

@[simp] theorem topology_resolveAll (answer : Awaited) (hub : Hub) (tickets : List Ticket) :
    (hub.resolveAll answer tickets).topology = hub.topology := by
  induction tickets generalizing hub with
  | nil => rfl
  | cons ticket rest ih => exact ih _

theorem getElem?_resolveAll (answer : Awaited) (hub : Hub) (tickets : List Ticket)
    (other : Ticket) : (hub.resolveAll answer tickets).awaited[other]? =
      if other ∈ tickets ∧ other < hub.awaited.size then some answer else hub.awaited[other]? := by
  induction tickets generalizing hub with
  | nil => exact (if_neg fun h => List.not_mem_nil h.1).symm
  | cons ticket rest ih =>
    show ((hub.resolve answer ticket).resolveAll answer rest).awaited[other]? = _
    have hsize : (hub.resolve answer ticket).awaited.size = hub.awaited.size :=
      Array.size_setIfInBounds
    rw [ih, getElem?_resolve, hsize]
    by_cases hlt : other < hub.awaited.size
    · by_cases hrest : other ∈ rest
      · rw [if_pos ⟨hrest, hlt⟩, if_pos ⟨List.mem_cons_of_mem _ hrest, hlt⟩]
      · by_cases hother : ticket = other
        · subst hother
          rw [if_neg fun h => hrest h.1, if_pos ⟨rfl, hlt⟩, if_pos ⟨List.mem_cons_self, hlt⟩]
        · rw [if_neg fun h => hrest h.1, if_neg fun h => hother h.1, if_neg]
          rintro ⟨hmem, -⟩
          rcases List.mem_cons.1 hmem with heq | hmem
          · exact hother heq.symm
          · exact hrest hmem
    · rw [if_neg fun h => hlt h.2, if_neg, if_neg fun h => hlt h.2]
      exact fun h => hlt (h.1 ▸ h.2)

/-- What is there at tickets when a ticket is answered that nothing was at. -/
theorem perm_arrivedFrom_resolve (hub : Hub) (answer : Awaited) {ticket : Ticket}
    (hpending : hub.awaited[ticket]? = some .pending) (number : Nat) :
    ((hub.resolve answer ticket).arrivedFrom number).Perm
      (hub.arrivedFrom number ++ (answer.from? number).toList) := by
  rw [arrivedFrom, resolve, Array.toList_setIfInBounds]
  exact perm_filterMap_set (by rwa [Array.getElem?_toList]) rfl answer

/-- Nothing more is there when tickets are answered without a delivery. -/
theorem perm_arrivedFrom_resolveAll {answer : Awaited} {number : Nat}
    (hanswer : answer.from? number = none) (hub : Hub) {tickets : List Ticket}
    (hpending : ∀ ticket ∈ tickets, ∃ old, hub.awaited[ticket]? = some old ∧
      old.from? number = none) :
    ((hub.resolveAll answer tickets).arrivedFrom number).Perm (hub.arrivedFrom number) := by
  induction tickets generalizing hub with
  | nil => exact .refl _
  | cons ticket rest ih =>
    have hfirst : ((hub.resolve answer ticket).arrivedFrom number).Perm
        (hub.arrivedFrom number) := by
      obtain ⟨old, hold, hnone⟩ := hpending ticket List.mem_cons_self
      rw [arrivedFrom, resolve, Array.toList_setIfInBounds]
      have hset := perm_filterMap_set (by rwa [Array.getElem?_toList]) hnone answer
      rwa [hanswer, Option.toList_none, List.append_nil] at hset
    refine (ih (hub.resolve answer ticket) fun other hother => ?_).trans hfirst
    obtain ⟨old, hold, hnone⟩ := hpending other (List.mem_cons_of_mem _ hother)
    rw [getElem?_resolve]
    by_cases hsame : ticket = other ∧ ticket < hub.awaited.size
    · exact ⟨answer, if_pos hsame, hanswer⟩
    · exact ⟨old, (if_neg hsame).trans hold, hnone⟩

end Hub
end BrokerLoad
