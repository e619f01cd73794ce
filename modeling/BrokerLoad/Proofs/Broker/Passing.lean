import BrokerLoad.Proofs.Broker.Acts

/-!
# What can happen in a queue

Whatever is done to a queue, one of a few things happens in it, and `Queue.Passes` lists them:
nothing happens to any message; a message is put in; one that is ready is read; or a delivery is
settled, and then its message leaves the queue or comes back.  A message that is put in or comes
back goes to the first parked read, or becomes ready (`Queue.Places`).

What is to be shown of all that can be done to a queue is shown for each of them
(`Queue.passes_perform`).
-/

namespace BrokerLoad
namespace Queue

variable {δ : Type}

/-- Where a message goes that is put into an open queue. -/
inductive Places (q : Queue δ) (message : Message δ) : List (Event δ) → Queue δ → Prop
  /-- No read is parked. -/
  | queued : Places q message [] { q with ready := q.ready.push message }
  /-- It goes to the first parked read. -/
  | handed (rest : List Parked) :
    Places q message [.handed ({ q with parked := rest }.deliver message).1]
      ({ q with parked := rest }.deliver message).2

/-- A queue in which nothing has happened to any message. -/
structure Rests (q after : Queue δ) : Prop where
  ready : after.ready = q.ready
  unacked : after.unacked = q.unacked
  nextToken : after.nextToken = q.nextToken
  closed : after.closed = q.closed
  maxDeliveries : after.maxDeliveries = q.maxDeliveries
  redeliverEvery : after.redeliverEvery = q.redeliverEvery

/-- What can happen in a queue: the queue before, what happens, and the queue after. -/
inductive Passes (q : Queue δ) : List (Event δ) → Queue δ → Prop
  /-- Nothing. -/
  | rests {after : Queue δ} (rests : q.Rests after) : Passes q [] after
  | shuts : Passes q [] q.shutDown.2
  /-- A message is put in. -/
  | puts (data : δ) (isOpen : q.closed = false) {placed : List (Event δ)} {after : Queue δ}
      (places : q.Places { data } placed after) : Passes q (.put data :: placed) after
  /-- The first message that is ready is read. -/
  | reads {message : Message δ} {ready : Fifo (Message δ)} (isOpen : q.closed = false)
      (popped : q.ready.pop? = some (message, ready)) :
      Passes q [.handed ({ q with ready := ready }.deliver message).1]
        ({ q with ready := ready }.deliver message).2
  /-- A message is acknowledged, and leaves. -/
  | leaves {token : UInt64} {message : Message δ} (found : q.find? token = some message)
      (acks : UInt64) :
      Passes q [.acked token message.data .done] { q.settle token with acks := acks }
  /-- A message is acknowledged, and comes back as a duplicate. -/
  | duplicates {token : UInt64} {message : Message δ} (found : q.find? token = some message)
      (acks : UInt64) (spaced : q.redeliverEvery ≠ 0) (isOpen : q.closed = false)
      (served : Option (Ticket × Handover δ)) {placed : List (Event δ)} {after : Queue δ}
      (places : Places { q.settle token with acks := acks } message placed after) :
      Passes q (.acked token message.data (.redelivered served) :: placed) after
  /-- A message is refused, and has been delivered often enough. -/
  | givesUp {token : UInt64} {message : Message δ} (found : q.find? token = some message)
      (enough : q.maxDeliveries ≤ message.deliveries) :
      Passes q [.nacked token message.data .deadLettered] (q.settle token)
  /-- A message is refused in a queue that is shut down. -/
  | forgets {token : UInt64} {message : Message δ} (found : q.find? token = some message)
      (shut : q.closed = true) :
      Passes q [.nacked token message.data .done] (q.settle token)
  /-- A message is refused, and comes back. -/
  | returns {token : UInt64} {message : Message δ} (found : q.find? token = some message)
      (few : message.deliveries < q.maxDeliveries) (isOpen : q.closed = false)
      (served : Option (Ticket × Handover δ)) {placed : List (Event δ)} {after : Queue δ}
      (places : (q.settle token).Places message placed after) :
      Passes q (.nacked token message.data (.redelivered served) :: placed) after

variable (q : Queue δ)

theorem Rests.refl : q.Rests q := ⟨rfl, rfl, rfl, rfl, rfl, rfl⟩

/-- A message that is put into an open queue is placed. -/
theorem places_push (isOpen : q.closed = false) (message : Message δ) :
    q.Places message (Event.ofServed (q.push message).1) (q.push message).2 := by
  rcases q.push_cases message with ⟨hclosed, -⟩ | ⟨-, -, hpush⟩ | ⟨read, rest, -, -, hpush⟩
  · exact absurd (hclosed.symm.trans isOpen) nofun
  · rw [hpush]
    exact .queued
  · rw [hpush]
    exact .handed rest

theorem passes_put (data : δ) : q.Passes (q.events (.put data)) (q.perform (.put data)) := by
  rw [events, perform]
  cases hclosed : q.closed with
  | true =>
    have hpush : q.push { data } = (none, q) := by rw [push, if_pos hclosed]
    rw [hpush]
    exact .rests (.refl q)
  | false => exact .puts data hclosed (q.places_push hclosed { data })

theorem passes_read : q.Passes (q.events .read) (q.perform .read) := by
  rw [events, perform, read]
  by_cases hclosed : q.closed = true
  · rw [if_pos hclosed]
    exact .rests (.refl q)
  · have hisOpen : q.closed = false := by simpa using hclosed
    rw [if_neg hclosed]
    cases hpop : q.ready.pop? with
    | none => exact .rests (.refl q)
    | some popped => exact .reads hisOpen hpop

theorem passes_request (reader : UInt64) (ticket : Ticket) :
    q.Passes (q.events (.request reader ticket)) (q.perform (.request reader ticket)) := by
  rw [events, perform, request]
  by_cases hclosed : q.closed = true
  · rw [if_pos hclosed]
    exact .rests (.refl q)
  · have hisOpen : q.closed = false := by simpa using hclosed
    rw [if_neg hclosed]
    cases hpop : q.ready.pop? with
    | none => exact .rests ⟨rfl, rfl, rfl, rfl, rfl, rfl⟩
    | some popped => exact .reads hisOpen hpop

theorem passes_ack (token : UInt64) :
    q.Passes (q.events (.ack token)) (q.perform (.ack token)) := by
  rw [events, perform, ack]
  cases hfind : q.find? token with
  | none => exact .rests (.refl q)
  | some message =>
    rw [Option.map_some, Option.map_some, Option.getD_some]
    dsimp only
    split
    next hagain =>
      have hboth : q.closed = false ∧ q.redeliverEvery ≠ 0 := by
        simp only [duplicates, settle, Bool.and_eq_true, Bool.not_eq_true'] at hagain
        exact ⟨hagain.1, of_decide_eq_true hagain.2.1⟩
      exact .duplicates hfind _ hboth.2 hboth.1 _
        (places_push { q.settle token with acks := q.acks + 1 } hboth.1 message)
    next => exact .leaves hfind _

theorem passes_nack (token : UInt64) :
    q.Passes (q.events (.nack token)) (q.perform (.nack token)) := by
  rw [events, perform, nack]
  cases hfind : q.find? token with
  | none => exact .rests (.refl q)
  | some message =>
    rw [Option.map_some, Option.map_some, Option.getD_some]
    dsimp only
    split
    next hclosed => exact .forgets hfind hclosed
    next hopen =>
      have hisOpen : q.closed = false := by simpa [settle] using hopen
      split
      next henough => exact .givesUp hfind henough
      next hfew =>
        exact .returns hfind (UInt32.not_le.1 hfew) hisOpen _
          (places_push (q.settle token) hisOpen message)

/-- Whatever is done to a queue, what happens in it is one of a few things. -/
theorem passes_perform (act : Act δ) : q.Passes (q.events act) (q.perform act) := by
  cases act with
  | put data => exact q.passes_put data
  | read => exact q.passes_read
  | request reader ticket => exact q.passes_request reader ticket
  | ack token => exact q.passes_ack token
  | nack token => exact q.passes_nack token
  | drop reader => exact .rests ⟨rfl, rfl, rfl, rfl, rfl, rfl⟩
  | shutDown => exact .shuts

/-- A queue that is open was open before. -/
theorem Passes.isOpen {q after : Queue δ} {events : List (Event δ)} (passes : q.Passes events after)
    (stays : after.closed = false) : q.closed = false := by
  cases passes with
  | rests rests => exact rests.closed.symm.trans stays
  | shuts => cases stays
  | puts data isOpen places => exact isOpen
  | reads isOpen popped => exact isOpen
  | leaves found acks => exact stays
  | duplicates found acks spaced isOpen served places => exact isOpen
  | givesUp found enough => exact stays
  | forgets found shut => exact stays
  | returns found few isOpen served places => exact isOpen

end Queue
end BrokerLoad
