import BrokerLoad.Proofs.Broker.Journal
import Mathlib.Algebra.Group.Pi.Basic
import Mathlib.Algebra.Order.Ring.Nat

/-!
# The turnover of a queue

The turnover of a queue is how many messages went through it, and which way: copies that were
put in, messages that were sent round again, deliveries that were settled either way, and
messages that were thrown away when the queue was shut down.  `Queue.Balances` sets it
against what is in the queue.

1. What was put in was handed over, or is ready, or was thrown away.  There is no other way
   out of the ready messages, and a message is put into an open queue only.
2. What was handed over is outstanding, or was settled, as long as no token is given out
   twice.  Tokens come back after `2 ^ 64` deliveries.  A delivery under a token that is in
   use is not outstanding, and cannot be settled on its own.

A message that an operation has taken out of the ready ones, or is about to put in, is
*loose*; how many there are is a parameter of `Queue.Balances`.
-/

namespace BrokerLoad

/-- What happens to a message in a queue. -/
inductive Movement where
  /-- It is put in, as a copy of a write that was accepted. -/
  | copied
  /-- It is sent round again. -/
  | resent
  | acked
  | nacked
  /-- It is thrown away, because it is ready when the queue is shut down. -/
  | discarded
  deriving DecidableEq

namespace Queue

variable {δ : Type}

/-- The messages that moved account for what is in a queue, but for some loose ones. -/
structure Balances (q : Queue δ) (moved : Movement → Nat) (handed loose : Nat) : Prop where
  /-- What was put in was handed over, or is ready, or was thrown away. -/
  put : moved .copied + moved .resent = handed + loose + q.ready.size + moved .discarded
  /-- What is outstanding or was settled was handed over. -/
  settled : q.unacked.length + moved .acked + moved .nacked ≤ handed
  /-- Until tokens come back, the converse holds. -/
  kept : handed < 2 ^ 64 → q.unacked.length + moved .acked + moved .nacked = handed
  /-- One message is outstanding under a token. -/
  distinct : (q.unacked.map Prod.fst).Nodup
  /-- Tokens are given out one after another. -/
  nextToken : q.nextToken = UInt64.ofNat (handed + 1)
  /-- Until they come back, no token is in use that was not given out. -/
  below : handed < 2 ^ 64 → ∀ entry ∈ q.unacked, entry.1.toNat ≤ handed
  /-- Nothing is thrown away as long as the queue is open. -/
  whole : q.closed = false → moved .discarded = 0
  /-- Nothing is ready any more after that. -/
  shut : q.closed = true → q.ready.size = 0

theorem closed_request (q : Queue δ) (reader : UInt64) (ticket : Ticket) :
    (q.request reader ticket).2.closed = q.closed := by
  rw [request]
  split
  · rfl
  · split <;> rfl

namespace Balances

variable {q : Queue δ} {moved : Movement → Nat} {handed : Nat} {message : Message δ}

theorem create (maxDeliveries redeliverEvery : UInt32) :
    (Queue.create maxDeliveries redeliverEvery : Queue δ).Balances 0 0 0 where
  put := rfl
  settled := Nat.le_refl 0
  kept _ := rfl
  distinct := .nil
  nextToken := rfl
  below _ := by simp [Queue.create]
  whole _ := rfl
  shut := nofun

/-! ## Steps -/

/-- A message is about to be put in. -/
theorem add (balances : q.Balances moved handed 0) {way : Movement}
    (hway : way = .copied ∨ way = .resent) :
    q.Balances (moved + Pi.single way 1) handed 1 := by
  have hput := balances.put
  rcases hway with rfl | rfl <;>
  exact { balances with
    put := by
      simp
      omega
    settled := by simpa [Pi.single_apply] using balances.settled
    kept := by simpa [Pi.single_apply] using balances.kept
    whole := by simpa [Pi.single_apply] using balances.whole }

/-- A message is taken out of the ready ones. -/
theorem pop (balances : q.Balances moved handed 0) {ready : Fifo (Message δ)}
    (hpop : q.ready.pop? = some (message, ready)) :
    Balances { q with ready := ready } moved handed 1 := by
  have hsize : q.ready.size = ready.size + 1 := by
    rw [Fifo.size_eq_length, Fifo.size_eq_length, Fifo.toList_of_pop? hpop, List.length_cons]
  have hput := balances.put
  exact { balances with
    put := by
      show _ = handed + 1 + ready.size + _
      omega
    shut := fun hclosed => by
      have hnone := balances.shut hclosed
      omega }

/-- A loose message is handed over. -/
theorem deliver (balances : q.Balances moved handed 1) (message : Message δ) :
    (q.deliver message).2.Balances moved (handed + 1) 0 := by
  have hput := balances.put
  have hsettled := balances.settled
  have hnext : (q.deliver message).2.nextToken = UInt64.ofNat (handed + 1 + 1) := by
    show q.nextToken + 1 = _
    rw [balances.nextToken, UInt64.ofNat_add (handed + 1) 1]
    rfl
  have hdistinct := distinct_deliver balances.distinct message
  rcases q.unacked_deliver_cases message with ⟨hused, hunacked⟩ | ⟨-, hunacked⟩
  · -- The token that comes next is in use only when tokens come back.
    have hmany : ¬ handed + 1 < 2 ^ 64 := by
      intro few
      obtain ⟨entry, hentry, hsame⟩ := List.mem_map.1 hused
      have hbelow := balances.below (by omega) entry hentry
      rw [hsame, balances.nextToken, UInt64.toNat_ofNat_of_lt' few] at hbelow
      omega
    exact {
      put := by rw [hput]; exact Nat.add_right_cancel_iff.2 (by rw [Nat.add_zero]; rfl)
      settled := by rw [hunacked]; omega
      kept := fun few => absurd few hmany
      distinct := hdistinct
      nextToken := hnext
      below := fun few => absurd few hmany
      whole := balances.whole
      shut := balances.shut }
  · have hlength : (q.deliver message).2.unacked.length = q.unacked.length + 1 := by
      rw [hunacked, List.length_append, List.length_singleton]
    exact {
      put := by rw [hput]; exact Nat.add_right_cancel_iff.2 (by rw [Nat.add_zero]; rfl)
      settled := by omega
      kept := fun few => by
        have hkept := balances.kept (by omega)
        omega
      distinct := hdistinct
      nextToken := hnext
      below := fun few entry hentry => by
        rcases mem_unacked_deliver hentry with hold | rfl
        · exact Nat.le_succ_of_le (balances.below (by omega) entry hold)
        · show q.nextToken.toNat ≤ handed + 1
          exact Nat.le_of_eq (by rw [balances.nextToken, UInt64.toNat_ofNat_of_lt' few])
      whole := balances.whole
      shut := balances.shut }

/-- A loose message is put into an open queue. -/
theorem push (balances : q.Balances moved handed 1) (hopen : q.closed = false)
    (message : Message δ) :
    (q.push message).2.Balances moved (handed + (q.push message).1.toList.length) 0 := by
  rcases q.push_cases message with
    ⟨hclosed, -⟩ | ⟨-, -, hpush⟩ | ⟨read, rest, -, -, hpush⟩
  · exact absurd (hclosed.symm.trans hopen) nofun
  · have hput := balances.put
    rw [hpush]
    exact { balances with
      put := by
        rw [hput]
        show _ = handed + 0 + 0 + (q.ready.size + 1) + _
        omega
      shut := fun hclosed => absurd (hclosed.symm.trans hopen) nofun }
  · have hserved : Balances { q with parked := rest } moved handed 1 := { balances with }
    rw [hpush]
    exact hserved.deliver message

/-- A read takes the first ready message, if there is one. -/
theorem read (balances : q.Balances moved handed 0) :
    q.read.2.Balances moved (handed + q.read.1.toList.length) 0 := by
  rw [Queue.read]
  split
  · exact balances
  · split
    next message ready hpop => exact (balances.pop hpop).deliver message
    next => exact balances

/-- So does a request, and else it is parked. -/
theorem request (balances : q.Balances moved handed 0) (reader : UInt64) (ticket : Ticket) :
    (q.request reader ticket).2.Balances moved
      (handed + match (q.request reader ticket).1 with
        | .answered handover => handover.toList.length
        | .parked => 0) 0 := by
  rw [Queue.request]
  split
  · exact balances
  · split
    next message ready hpop => exact (balances.pop hpop).deliver message
    next => exact { balances with }

/-- An outstanding message is settled, one way or the other. -/
theorem settle (balances : q.Balances moved handed 0) {token : UInt64}
    (hfind : q.find? token = some message) (acks : UInt64) {way : Movement}
    (hway : way = .acked ∨ way = .nacked) :
    Balances { q.settle token with acks := acks } (moved + Pi.single way 1) handed 0 := by
  -- The token is that of one outstanding message.
  have hlength := (perm_settle balances.distinct hfind).length_eq
  rw [List.length_cons] at hlength
  have hput := balances.put
  have hsettled := balances.settled
  rcases hway with rfl | rfl <;>
  exact { balances with
    put := by
      show _ = handed + 0 + q.ready.size + _
      simpa [Pi.single_apply] using hput
    settled := by
      show (q.settle token).unacked.length + _ + _ ≤ _
      simp
      omega
    kept := fun few => by
      have hkept := balances.kept few
      show (q.settle token).unacked.length + _ + _ = _
      simp
      omega
    distinct := distinct_settle balances.distinct token
    below := fun few entry hentry => balances.below few entry (List.mem_of_mem_filter hentry)
    whole := fun hopen => by simpa [Pi.single_apply] using balances.whole hopen }

/-- A settled message is put in again. -/
theorem resend (balances : q.Balances moved handed 0) (hopen : q.closed = false)
    (message : Message δ) :
    (q.push message).2.Balances (moved + Pi.single .resent 1)
      (handed + (q.push message).1.toList.length) 0 :=
  (balances.add (.inr rfl)).push hopen message

/-- A delivery is acknowledged, and goes round again if the queue makes a duplicate. -/
theorem ack (balances : q.Balances moved handed 0) {token : UInt64}
    {settlement : Settlement δ} {after : Queue δ} (hack : q.ack token = some (settlement, after)) :
    after.Balances
      (moved + Pi.single .acked 1 +
        Pi.single .resent (q.again token (some (settlement, after))).length)
      (handed + settlement.served.toList.length) 0 := by
  rw [Queue.ack, Option.map_eq_some_iff] at hack
  obtain ⟨message, hfind, hafter⟩ := hack
  have hsettled := balances.settle hfind (q.acks + 1) (.inl rfl)
  dsimp only at hafter
  split at hafter
  next hagain =>
    have hopen : q.closed = false := by
      simp at hagain
      exact hagain.1
    cases hafter
    rw [Queue.again, hfind]
    exact hsettled.resend hopen message
  next =>
    cases hafter
    simpa [Queue.again, Settlement.served] using hsettled

/-- A delivery is refused, and goes round again if it has not done so too often. -/
theorem nack (balances : q.Balances moved handed 0) {token : UInt64}
    {settlement : Settlement δ} {after : Queue δ}
    (hnack : q.nack token = some (settlement, after)) :
    after.Balances
      (moved + Pi.single .nacked 1 +
        Pi.single .resent (q.again token (some (settlement, after))).length)
      (handed + settlement.served.toList.length) 0 := by
  rw [Queue.nack, Option.map_eq_some_iff] at hnack
  obtain ⟨message, hfind, hafter⟩ := hnack
  have hsettled : (q.settle token).Balances (moved + Pi.single .nacked 1) handed 0 :=
    balances.settle hfind q.acks (.inr rfl)
  dsimp only at hafter
  split at hafter
  next =>
    cases hafter
    simpa [Queue.again, Settlement.served] using hsettled
  next hnot =>
    split at hafter
    next =>
      cases hafter
      simpa [Queue.again, Settlement.served] using hsettled
    next =>
      have hopen : (q.settle token).closed = false := by simpa using hnot
      cases hafter
      rw [Queue.again, hfind]
      exact hsettled.resend hopen message

/-- Parked reads do not matter. -/
theorem drop (balances : q.Balances moved handed 0) (reader : UInt64) :
    (q.drop reader).2.Balances moved handed 0 :=
  { balances with }

/-- What is ready is thrown away when the queue is shut down, which it is once. -/
theorem shutDown (balances : q.Balances moved handed 0) :
    q.shutDown.2.Balances
      (moved + Pi.single .discarded (if q.closed then 0 else q.ready.size)) handed 0 := by
  have hput := balances.put
  have hready : (if q.closed then 0 else q.ready.size) = q.ready.size := by
    split
    next hclosed => exact (balances.shut hclosed).symm
    next => rfl
  rw [hready]
  exact { balances with
    put := by
      show _ = handed + 0 + 0 + _
      simp
      omega
    settled := by
      show q.unacked.length + _ + _ ≤ _
      simpa [Pi.single_apply] using balances.settled
    kept := by
      show _ → q.unacked.length + _ + _ = _
      simpa [Pi.single_apply] using balances.kept
    whole := nofun
    shut := fun _ => rfl }

end Balances
end Queue
end BrokerLoad
