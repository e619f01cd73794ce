import BrokerLoad.Proofs.Broker.Chronicle

/-!
# Hubs keep the journals of their queues

`Hub.Tells` says that each queue of a hub keeps a journal that agrees with the chronicle of
the hub and with what is at its tickets.  Three facts tie the tickets to the queues.

* A ticket was given out for one request, so it was parked in one queue only.
* A ticket that is pending is parked in some queue.
* A parked ticket is pending.

An operation acts on one queue at a time, and answers no ticket but those that were parked
there (`Hub.ActsOn`).  So the journals of the other queues still agree, which is proved once
(`ActsOn.leads`), and an operation has to give an account of its own queue only.  A call may act
on several queues, one after another; `Hub.Leads` puts such steps together.

`Hub.Precedes` is what never changes back: a queue stays shut down, and a ticket that was
answered keeps its answer.
-/

namespace BrokerLoad
namespace Hub

/-- A queue keeps a journal that agrees with the chronicle of its hub and with what is at its
tickets. -/
structure Agrees (hub : Hub) (chronicle : List Entry) (number : Nat) (queue : Queue Bytes)
    (journal : Queue.Journal Bytes) : Prop where
  keeps : queue.Keeps journal []
  /-- The same was put in. -/
  put : journal.put = putInto number chronicle
  /-- What was handed over was read, or is at a ticket. -/
  handed : (journal.handed.map (delivery number)).Perm
    (takenFrom number chronicle ++ hub.arrivedFrom number)
  /-- The same reads were parked and not dropped. -/
  waited : journal.waited = (parkedIn number chronicle).filter hub.unbroken
  /-- What was served is at its ticket. -/
  served : ∀ pair ∈ journal.served,
    hub.awaited[pair.1]? = some (.arrived (delivery number pair.2))
  /-- What is parked is pending. -/
  parked : ∀ read ∈ queue.parked, hub.awaited[read.ticket]? = some .pending

/-- The queues of a hub keep journals that agree with its chronicle. -/
structure Tells (hub : Hub) (chronicle : List Entry) : Prop where
  queues : ∀ {number : Nat} {queue : Queue Bytes}, hub.queues[number]? = some queue →
    ∃ journal, hub.Agrees chronicle number queue journal
  /-- Nothing is told of queues that do not exist. -/
  numbers : ∀ entry ∈ chronicle, entry.number < hub.queues.size
  /-- Nothing came from them. -/
  arrivals : ∀ {number : Nat}, hub.queues.size ≤ number → hub.arrivedFrom number = []
  /-- They cannot be reached. -/
  reachable : ∀ number ∈ hub.reachable, number < hub.queues.size
  /-- A ticket was parked in one queue only. -/
  apart : ∀ {number other : Nat} {ticket : Ticket}, ticket ∈ parkedIn number chronicle →
    ticket ∈ parkedIn other chronicle → number = other
  /-- A ticket that was parked was given out. -/
  known : ∀ {number : Nat} {ticket : Ticket}, ticket ∈ parkedIn number chronicle →
    ticket < hub.awaited.size
  /-- What is pending is parked. -/
  pending : ∀ {ticket : Ticket}, hub.awaited[ticket]? = some .pending →
    ∃ (number : Nat) (queue : Queue Bytes), hub.queues[number]? = some queue ∧
      ticket ∈ queue.parked.map Parked.ticket

/-- What never changes back. -/
structure Precedes (before after : Hub) : Prop where
  /-- A queue that was shut down stays so. -/
  queues : ∀ {number : Nat} {queue : Queue Bytes}, before.queues[number]? = some queue →
    ∃ later, after.queues[number]? = some later ∧ (queue.closed = true → later.closed = true)
  /-- A ticket that was answered keeps its answer. -/
  awaited : ∀ {ticket : Ticket} {answer : Awaited}, before.awaited[ticket]? = some answer →
    answer ≠ .pending → after.awaited[ticket]? = some answer

namespace Precedes

variable {before between after : Hub}

theorem trans (first : before.Precedes between) (second : between.Precedes after) :
    before.Precedes after where
  queues hqueue := by
    obtain ⟨later, hlater, hclosed⟩ := first.queues hqueue
    obtain ⟨last, hlast, hclosed'⟩ := second.queues hlater
    exact ⟨last, hlast, hclosed' ∘ hclosed⟩
  awaited hanswer hne := second.awaited (first.awaited hanswer hne) hne

end Precedes

/-- A step of a hub that adds entries to its chronicle. -/
def Leads (before after : Hub) (new : List Entry) : Prop :=
  ∀ chronicle : List Entry, before.Tells chronicle →
    after.Tells (chronicle ++ new) ∧ before.Precedes after

namespace Agrees

variable {hub : Hub} {chronicle : List Entry} {number : Nat} {queue : Queue Bytes}
  {journal : Queue.Journal Bytes}

/-- A parked ticket was parked in its queue. -/
theorem mem_parkedIn (agrees : hub.Agrees chronicle number queue journal) {ticket : Ticket}
    (hticket : ticket ∈ queue.parked.map Parked.ticket) : ticket ∈ parkedIn number chronicle := by
  obtain ⟨read, hread, rfl⟩ := List.mem_map.1 hticket
  have hwaited := agrees.keeps.ticket_mem_waited hread
  rw [agrees.waited] at hwaited
  exact List.mem_of_mem_filter hwaited

/-- A parked ticket is pending. -/
theorem pending (agrees : hub.Agrees chronicle number queue journal) {ticket : Ticket}
    (hticket : ticket ∈ queue.parked.map Parked.ticket) :
    hub.awaited[ticket]? = some .pending := by
  obtain ⟨read, hread, rfl⟩ := List.mem_map.1 hticket
  exact agrees.parked read hread

/-- A queue whose tickets are not touched still agrees. -/
theorem frame (after : Hub) (new : List Entry)
    (agrees : hub.Agrees chronicle number queue journal)
    (hnew : ∀ entry ∈ new, entry.number ≠ number)
    (harrived : (after.arrivedFrom number).Perm (hub.arrivedFrom number))
    (hawaited : ∀ ticket answer, hub.awaited[ticket]? = some answer →
      ticket ∈ parkedIn number chronicle ∨ answer ≠ .pending →
      after.awaited[ticket]? = some answer)
    (hknown : ∀ ticket ∈ parkedIn number chronicle, ticket < hub.awaited.size) :
    after.Agrees (chronicle ++ new) number queue journal := by
  obtain ⟨hput, htaken, hparked⟩ := nil_of_number_ne number hnew
  exact {
    keeps := agrees.keeps
    put := by rw [putInto_append, hput, List.append_nil, agrees.put]
    handed := by
      rw [takenFrom_append, htaken, List.append_nil]
      exact agrees.handed.trans (harrived.symm.append_left _)
    waited := by
      rw [parkedIn_append, hparked, List.append_nil, agrees.waited]
      refine List.filter_congr fun ticket hticket => ?_
      have hsome := Array.getElem?_eq_getElem (hknown ticket hticket)
      rw [unbroken, unbroken, hawaited ticket _ hsome (.inl hticket), hsome]
    served := fun pair hpair => hawaited _ _ (agrees.served pair hpair) (.inr nofun)
    parked := fun read hread =>
      have hticket : read.ticket ∈ queue.parked.map Parked.ticket := List.mem_map_of_mem hread
      hawaited _ _ (agrees.parked read hread) (.inl (agrees.mem_parkedIn hticket)) }

end Agrees

namespace Leads

variable {before between after : Hub} {new more : List Entry}

theorem trans (first : Leads before between new) (second : Leads between after more) :
    Leads before after (new ++ more) := by
  intro chronicle tells
  obtain ⟨told, hprecedes⟩ := first _ tells
  obtain ⟨told', hprecedes'⟩ := second _ told
  exact ⟨List.append_assoc chronicle new more ▸ told', hprecedes.trans hprecedes'⟩

/-- Nothing is told of a step that leaves queues alone, gives out no ticket but those it has
an answer to, and does not let any other queue be reached. -/
theorem of_queues_eq (hqueues : after.queues = before.queues)
    (hawaited : ∀ {ticket : Ticket} {answer : Awaited}, before.awaited[ticket]? = some answer →
      after.awaited[ticket]? = some answer)
    (hpending : ∀ {ticket : Ticket}, after.awaited[ticket]? = some .pending →
      before.awaited[ticket]? = some .pending)
    (harrived : ∀ number, after.arrivedFrom number = before.arrivedFrom number)
    (hsize : before.awaited.size ≤ after.awaited.size)
    (hreachable : ∀ number ∈ after.reachable, number ∈ before.reachable) :
    Leads before after [] := by
  intro chronicle tells
  refine ⟨?_, {
    queues := fun {_ queue} hqueue => ⟨queue, hqueues ▸ hqueue, id⟩
    awaited := fun hanswer _ => hawaited hanswer }⟩
  rw [List.append_nil]
  exact {
    queues := fun {number queue} hqueue => by
      obtain ⟨journal, hagrees⟩ := tells.queues (hqueues ▸ hqueue)
      have hframed := hagrees.frame after [] nofun
        (.of_eq (harrived number)) (fun ticket answer hanswer _ => hawaited hanswer)
        (fun ticket hticket => tells.known hticket)
      exact ⟨journal, List.append_nil chronicle ▸ hframed⟩
    numbers := hqueues ▸ tells.numbers
    arrivals := fun {number} hnumber => (harrived number).trans (tells.arrivals (hqueues ▸ hnumber))
    reachable := fun number hnumber => hqueues ▸ tells.reachable number (hreachable number hnumber)
    apart := tells.apart
    known := fun hticket => Nat.lt_of_lt_of_le (tells.known hticket) hsize
    pending := fun hticket => hqueues ▸ tells.pending (hpending hticket) }

/-- Nothing is told of a step that leaves queues and tickets alone and does not let any other
queue be reached. -/
theorem of_eq (hqueues : after.queues = before.queues) (hawaited : after.awaited = before.awaited)
    (hreachable : ∀ number ∈ after.reachable, number ∈ before.reachable) :
    Leads before after [] :=
  of_queues_eq hqueues (fun hanswer => hawaited ▸ hanswer) (fun hticket => hawaited ▸ hticket)
    (fun number => by rw [arrivedFrom, arrivedFrom, hawaited]) (Nat.le_of_eq (by rw [hawaited]))
    hreachable

theorem refl (hub : Hub) : Leads hub hub [] := of_eq rfl rfl fun _ => id

end Leads

/-- What a hub does when it acts on one queue. -/
structure ActsOn (before after : Hub) (chronicle : List Entry) (number : Nat)
    (queue changed : Queue Bytes) (new : List Entry) : Prop where
  found : before.queues[number]? = some queue
  queues : after.queues = before.queues.setIfInBounds number changed
  topology : after.topology = before.topology
  closed : queue.closed = true → changed.closed = true
  /-- Entries are about the queue. -/
  own : ∀ entry ∈ new, entry.number = number
  /-- No ticket is answered but those that were parked. -/
  untouched : ∀ ticket < before.awaited.size, ticket ∉ queue.parked.map Parked.ticket →
    after.awaited[ticket]? = before.awaited[ticket]?
  /-- Tickets stay valid. -/
  size : before.awaited.size ≤ after.awaited.size
  /-- A ticket that is given out is new. -/
  fresh : ∀ ticket ∈ parkedIn number new,
    before.awaited.size ≤ ticket ∧ ticket < after.awaited.size
  /-- Nothing arrives from another queue. -/
  arrived : ∀ other, other ≠ number → (after.arrivedFrom other).Perm (before.arrivedFrom other)
  /-- What is pending is parked in the queue, or was parked in another. -/
  pending : ∀ ticket, after.awaited[ticket]? = some .pending →
    ticket ∈ changed.parked.map Parked.ticket ∨
      (before.awaited[ticket]? = some .pending ∧ ticket ∉ queue.parked.map Parked.ticket)
  /-- The queue keeps a journal. -/
  agrees : ∃ journal, after.Agrees (chronicle ++ new) number changed journal

namespace ActsOn

variable {before after : Hub} {chronicle : List Entry} {number : Nat}
  {queue changed : Queue Bytes} {new : List Entry}

theorem getElem?_queues (acts : ActsOn before after chronicle number queue changed new)
    (other : Nat) :
    after.queues[other]? = if number = other then some changed else before.queues[other]? := by
  have hlt : number < before.queues.size := by
    have hqueue := acts.found
    rw [Array.getElem?_eq_some_iff] at hqueue
    exact hqueue.1
  rw [acts.queues, Array.getElem?_setIfInBounds, if_pos hlt]

/-- A ticket keeps its answer, and stays pending if it was parked in another queue. -/
theorem getElem?_awaited (acts : ActsOn before after chronicle number queue changed new)
    (tells : before.Tells chronicle) {ticket : Ticket} {answer : Awaited}
    (hanswer : before.awaited[ticket]? = some answer)
    (helse : (∃ other, other ≠ number ∧ ticket ∈ parkedIn other chronicle) ∨ answer ≠ .pending) :
    after.awaited[ticket]? = some answer := by
  obtain ⟨journal, hagrees⟩ := tells.queues acts.found
  rw [← hanswer]
  refine acts.untouched ticket (Array.getElem?_eq_some_iff.1 hanswer).1 fun hparked => ?_
  rcases helse with ⟨other, hother, hmem⟩ | hne
  · exact hother (tells.apart hmem (hagrees.mem_parkedIn hparked))
  · exact hne (Option.some.inj (hanswer.symm.trans (hagrees.pending hparked)))

/-- The journals of the other queues still agree. -/
theorem leads (number : Nat) (hacts : ∀ {chronicle : List Entry}, before.Tells chronicle →
    ∃ queue changed, ActsOn before after chronicle number queue changed new) :
    Leads before after new := by
  intro chronicle tells
  obtain ⟨queue, changed, acts⟩ := hacts tells
  have hsize : after.queues.size = before.queues.size := by
    rw [acts.queues, Array.size_setIfInBounds]
  have hnumber : number < before.queues.size := (Array.getElem?_eq_some_iff.1 acts.found).1
  refine ⟨{
    queues := ?_
    numbers := ?_
    arrivals := ?_
    reachable := ?_
    apart := ?_
    known := ?_
    pending := ?_ }, {
    queues := ?_
    awaited := fun hanswer hne => acts.getElem?_awaited tells hanswer (.inr hne) }⟩
  · intro other found hfound
    rw [acts.getElem?_queues] at hfound
    split at hfound
    next hsame =>
      subst hsame
      exact Option.some.inj hfound ▸ acts.agrees
    next hother =>
      obtain ⟨journal, hagrees⟩ := tells.queues hfound
      refine ⟨journal, hagrees.frame after new ?_ (acts.arrived other (Ne.symm hother)) ?_ ?_⟩
      · exact fun entry hentry => acts.own entry hentry ▸ hother
      · intro ticket answer hanswer helse
        exact acts.getElem?_awaited tells hanswer
          (helse.imp_left fun hmem => ⟨other, Ne.symm hother, hmem⟩)
      · exact fun ticket hticket => tells.known hticket
  · intro entry hentry
    rw [hsize]
    rcases List.mem_append.1 hentry with hold | hnew
    · exact tells.numbers entry hold
    · exact acts.own entry hnew ▸ hnumber
  · intro other hother
    rw [hsize] at hother
    have hne : other ≠ number := fun heq => Nat.not_lt.2 hother (heq ▸ hnumber)
    exact (tells.arrivals hother ▸ acts.arrived other hne).eq_nil
  · intro other hother
    rw [hsize]
    rw [Hub.reachable, acts.topology] at hother
    exact tells.reachable other hother
  · intro first second ticket hfirst hsecond
    rw [parkedIn_append, List.mem_append] at hfirst hsecond
    -- A ticket that is new was not parked before, and all new entries are about one queue.
    have hnew : ∀ {other}, ticket ∈ parkedIn other new →
        other = number ∧ before.awaited.size ≤ ticket := by
      intro other hmem
      have howner : number = other := (acts.own _ (Hub.mem_parkedIn.1 hmem)).symm
      exact ⟨howner.symm, (acts.fresh ticket (howner ▸ hmem)).1⟩
    rcases hfirst with hfirst | hfirst <;> rcases hsecond with hsecond | hsecond
    · exact tells.apart hfirst hsecond
    · exact absurd (tells.known hfirst) (Nat.not_lt.2 (hnew hsecond).2)
    · exact absurd (tells.known hsecond) (Nat.not_lt.2 (hnew hfirst).2)
    · exact (hnew hfirst).1.trans (hnew hsecond).1.symm
  · intro other ticket hticket
    rw [parkedIn_append, List.mem_append] at hticket
    rcases hticket with hold | hnew
    · exact Nat.lt_of_lt_of_le (tells.known hold) acts.size
    · have howner : number = other := (acts.own _ (Hub.mem_parkedIn.1 hnew)).symm
      exact (acts.fresh ticket (howner ▸ hnew)).2
  · intro ticket hpending
    rcases acts.pending ticket hpending with hparked | ⟨hbefore, hnot⟩
    · exact ⟨number, changed, by rw [acts.getElem?_queues, if_pos rfl], hparked⟩
    · obtain ⟨other, found, hfound, hparked⟩ := tells.pending hbefore
      have hother : number ≠ other := by
        rintro rfl
        obtain rfl : queue = found := Option.some.inj (acts.found.symm.trans hfound)
        exact hnot hparked
      exact ⟨other, found, by rwa [acts.getElem?_queues, if_neg hother], hparked⟩
  · intro other found hfound
    rw [acts.getElem?_queues]
    split
    next hsame =>
      subst hsame
      obtain rfl : queue = found := Option.some.inj (acts.found.symm.trans hfound)
      exact ⟨changed, rfl, acts.closed⟩
    next => exact ⟨found, hfound, id⟩

end ActsOn
end Hub
end BrokerLoad
