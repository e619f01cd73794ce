import BrokerLoad.Proofs.Broker.Outstanding
import BrokerLoad.Proofs.Ledger.Service
import Mathlib.Data.List.Perm.Basic

/-!
# The traffic of a queue

`Traffic` is the whole past of a queue that was never shut down: what was written into it,
what it sent round again, what it handed over and under which tokens, and which tokens were
settled by an acknowledgement.  `Queue.Carries` says that a queue is what its traffic has
made of it.

1. Nothing is lost and nothing is made up: what was handed over and what is ready is what was
   written and what was sent round again, each as often.
2. Tokens are given out one after another, so that a token means one handover until the
   tokens have gone all the way round; and until then every handover is either outstanding
   or its token was settled.
3. A message is sent round again only in exchange for an outstanding one.

While an operation is under way a message may be *loose*: out of the ready messages and not
yet handed over, or written and not yet ready.  The loose messages are a parameter of
`Queue.Carries`, so that an operation is a chain of steps, `hold` and `release`, and each
step is proved once.
-/

namespace BrokerLoad

/-- What has gone through a queue. -/
structure Traffic (δ : Type) where
  /-- What was written. -/
  written : List δ := []
  /-- What was sent round again. -/
  resent : List δ := []
  /-- What was handed over. -/
  handed : List (Handover δ) := []
  /-- The tokens of what was acknowledged. -/
  settled : List UInt64 := []

namespace Traffic

variable {δ : Type}

/-- More was written. -/
def write (traffic : Traffic δ) (data : δ) : Traffic δ :=
  { traffic with written := traffic.written ++ [data] }

/-- More was sent round again. -/
def resend (traffic : Traffic δ) (data : δ) : Traffic δ :=
  { traffic with resent := traffic.resent ++ [data] }

/-- More was handed over. -/
def hand (traffic : Traffic δ) (handovers : List (Handover δ)) : Traffic δ :=
  { traffic with handed := traffic.handed ++ handovers }

/-- More was acknowledged. -/
def settle (traffic : Traffic δ) (token : UInt64) : Traffic δ :=
  { traffic with settled := traffic.settled ++ [token] }

theorem hand_nil (traffic : Traffic δ) : traffic.hand [] = traffic := by
  rw [hand, List.append_nil]

end Traffic

namespace Queue

variable {δ : Type}

/-- A queue that was never shut down is what its traffic has made of it, but for some loose
messages. -/
structure Carries (q : Queue δ) (spacing : UInt32) (traffic : Traffic δ) (loose : List δ) :
    Prop where
  /-- It was not shut down. -/
  isOpen : q.closed = false
  /-- It makes duplicates as often as it was told. -/
  redeliverEvery : q.redeliverEvery = spacing
  /-- Nothing is lost and nothing is made up. -/
  conserved : (traffic.handed.map Handover.payload ++ q.ready.toList.map Message.data ++
    loose).Perm (traffic.written ++ traffic.resent)
  /-- Tokens are given out one after another. -/
  tokens : traffic.handed.map Handover.token = wordsAfter 0 traffic.handed.length
  /-- The next one is given out next. -/
  nextToken : q.nextToken = UInt64.ofNat (traffic.handed.length + 1)
  /-- What is outstanding was handed over. -/
  handed : ∀ entry ∈ q.unacked, ⟨entry.1, entry.2.data⟩ ∈ traffic.handed
  /-- What was handed over is outstanding, or its token was settled. -/
  kept : traffic.handed.length < 2 ^ 64 → ∀ handover ∈ traffic.handed,
    handover.token ∈ traffic.settled ∨
      ∃ message, (handover.token, message) ∈ q.unacked ∧ message.data = handover.payload
  /-- What is sent round again was outstanding. -/
  exchanged : traffic.resent.length + q.unacked.length ≤ traffic.handed.length
  /-- What is sent round again was written. -/
  known : ∀ data ∈ traffic.resent, data ∈ traffic.written
  /-- Nothing is sent round again by a queue that makes no duplicates. -/
  plain : spacing = 0 → traffic.resent = []

namespace Carries

variable {q : Queue δ} {spacing : UInt32} {traffic : Traffic δ} {loose : List δ}

theorem create (maxDeliveries redeliverEvery : UInt32) :
    (Queue.create maxDeliveries redeliverEvery : Queue δ).Carries redeliverEvery {} [] where
  isOpen := rfl
  redeliverEvery := rfl
  conserved := .refl _
  tokens := rfl
  nextToken := rfl
  handed := by simp [Queue.create]
  kept := by simp
  exchanged := Nat.le_refl _
  known := by simp
  plain _ := rfl

/-- What was handed over was written. -/
theorem payload_mem_written (carries : q.Carries spacing traffic loose) {handover : Handover δ}
    (hmem : handover ∈ traffic.handed) : handover.payload ∈ traffic.written := by
  have hpayload : handover.payload ∈ traffic.handed.map Handover.payload :=
    List.mem_map_of_mem hmem
  have heither : handover.payload ∈ traffic.written ++ traffic.resent :=
    carries.conserved.mem_iff.1 (List.mem_append_left _ (List.mem_append_left _ hpayload))
  rcases List.mem_append.1 heither with hwritten | hresent
  · exact hwritten
  · exact carries.known _ hresent

/-- What was written is ready, if it was not handed over and is not loose. -/
theorem handed_or_ready_or_loose (carries : q.Carries spacing traffic loose) {data : δ}
    (hmem : data ∈ traffic.written) :
    (∃ handover ∈ traffic.handed, handover.payload = data) ∨
      data ∈ q.ready.toList.map Message.data ∨ data ∈ loose := by
  have hsomewhere := carries.conserved.mem_iff.2 (List.mem_append_left traffic.resent hmem)
  rw [List.mem_append, List.mem_append, List.mem_map, or_assoc] at hsomewhere
  exact hsomewhere

/-- A token means one handover. -/
theorem eq_of_token_eq (carries : q.Carries spacing traffic loose)
    (few : traffic.handed.length ≤ 2 ^ 64) {handover other : Handover δ}
    (hmem : handover ∈ traffic.handed) (hother : other ∈ traffic.handed)
    (htoken : handover.token = other.token) :
    handover = other := by
  have hnodup : (traffic.handed.map Handover.token).Nodup := by
    rw [carries.tokens]
    exact nodup_wordsAfter 0 few
  exact List.inj_on_of_nodup_map hnodup hmem hother htoken

/-- The next token is none of those in use. -/
theorem nextToken_notMem (carries : q.Carries spacing traffic loose)
    (few : traffic.handed.length + 1 < 2 ^ 64) : q.nextToken ∉ q.unacked.map Prod.fst := by
  intro hmem
  obtain ⟨entry, hentry, hsame⟩ := List.mem_map.1 hmem
  have hnodup := nodup_wordsAfter 0 (Nat.le_of_lt few)
  have htoken : entry.1 ∈ traffic.handed.map Handover.token :=
    List.mem_map_of_mem (carries.handed entry hentry)
  rw [carries.tokens] at htoken
  rw [wordsAfter_succ, UInt64.zero_add, ← carries.nextToken, List.nodup_append] at hnodup
  exact hnodup.2.2 _ htoken _ (List.mem_singleton_self _) hsame

/-! ### Steps -/

theorem write (carries : q.Carries spacing traffic loose) (data : δ) :
    q.Carries spacing (traffic.write data) (loose ++ [data]) :=
  { carries with
    conserved := by
      have hmore := carries.conserved.append_right [data]
      rw [List.append_assoc _ traffic.resent] at hmore
      refine (List.append_assoc _ loose [data] ▸ hmore).trans ?_
      rw [Traffic.write, List.append_assoc]
      exact List.perm_append_comm.append_left _
    known := fun data hdata => List.mem_append_left _ (carries.known data hdata) }

theorem pop (carries : q.Carries spacing traffic []) {message : Message δ}
    {ready : Fifo (Message δ)}
    (hpop : q.ready.pop? = some (message, ready)) :
    Carries { q with ready := ready } spacing traffic [message.data] :=
  { carries with
    conserved := by
      have hbefore := carries.conserved
      rw [Fifo.toList_of_pop? hpop, List.map_cons, List.append_nil] at hbefore
      refine (List.Perm.trans ?_ hbefore)
      rw [List.append_assoc]
      exact (List.perm_append_singleton _ _).append_left _ }

theorem enqueue {message : Message δ} (carries : q.Carries spacing traffic [message.data]) :
    Carries { q with ready := q.ready.push message } spacing traffic [] :=
  { carries with
    conserved := by
      rw [Fifo.toList_push, List.map_append, List.map_singleton, List.append_nil,
        ← List.append_assoc]
      exact carries.conserved }

theorem park (carries : q.Carries spacing traffic loose) (parked : List Parked) :
    Carries { q with parked := parked } spacing traffic loose :=
  { carries with }

/-- A loose message is handed over. -/
theorem deliver {message : Message δ} (carries : q.Carries spacing traffic [message.data]) :
    (q.deliver message).2.Carries spacing (traffic.hand [(q.deliver message).1]) [] where
  isOpen := carries.isOpen
  redeliverEvery := carries.redeliverEvery
  conserved := by
    refine List.Perm.trans ?_ carries.conserved
    rw [Traffic.hand, List.map_append, List.append_nil, List.append_assoc, List.append_assoc]
    exact List.perm_append_comm.append_left _
  tokens := by
    rw [Traffic.hand, List.map_append, List.length_append, List.length_singleton,
      wordsAfter_succ, carries.tokens, UInt64.zero_add, ← carries.nextToken]
    rfl
  nextToken := by
    have hnext : (q.deliver message).2.nextToken = q.nextToken + 1 := rfl
    rw [hnext, carries.nextToken, Traffic.hand, List.length_append, List.length_singleton,
      UInt64.ofNat_add (traffic.handed.length + 1)]
    rfl
  handed entry hentry := by
    rw [Traffic.hand, List.mem_append]
    rcases mem_unacked_deliver hentry with hold | rfl
    · exact .inl (carries.handed entry hold)
    · exact .inr (List.mem_singleton_self _)
  kept few handover hmem := by
    rw [Traffic.hand, List.length_append, List.length_singleton] at few
    rw [unacked_deliver_of_notMem (carries.nextToken_notMem few)]
    rcases List.mem_append.1 hmem with hold | hnew
    · rcases carries.kept (Nat.lt_of_succ_lt few) handover hold with hsettled | ⟨m, hm, hdata⟩
      · exact .inl hsettled
      · exact .inr ⟨m, List.mem_append_left _ hm, hdata⟩
    · rw [List.mem_singleton.1 hnew]
      exact .inr ⟨_, List.mem_append_right _ (List.mem_singleton_self _), rfl⟩
  exchanged := by
    have hbefore := carries.exchanged
    have hmore : (q.deliver message).2.unacked.length ≤ q.unacked.length + 1 := by
      rcases q.unacked_deliver_cases message with ⟨-, hunacked⟩ | ⟨-, hunacked⟩
      · rw [hunacked]
        exact Nat.le_succ _
      · rw [hunacked]
        exact Nat.le_of_eq List.length_append
    show traffic.resent.length + _ ≤ (traffic.handed ++ [_]).length
    rw [List.length_append, List.length_singleton]
    omega
  known := carries.known
  plain := carries.plain

/-- An outstanding message is settled, and there is one outstanding less. -/
theorem settle (carries : q.Carries spacing traffic []) {token : UInt64} {message : Message δ}
    (hfind : q.find? token = some message) :
    ⟨token, message.data⟩ ∈ traffic.handed ∧
      traffic.resent.length + (q.settle token).unacked.length < traffic.handed.length ∧
      (q.settle token).Carries spacing (traffic.settle token) [] := by
  have hentry := mem_unacked_of_find? hfind
  have hfewer : (q.settle token).unacked.length < q.unacked.length :=
    List.length_filter_lt_length_iff_exists.2 ⟨_, hentry, by simp⟩
  have hexchanged := carries.exchanged
  refine ⟨carries.handed _ hentry, by omega, { carries with
    handed := fun entry hmem => carries.handed entry (List.mem_of_mem_filter hmem)
    kept := ?_
    exchanged := Nat.le_of_lt (by show traffic.resent.length + _ < traffic.handed.length; omega) }⟩
  intro few handover hmem
  by_cases htoken : handover.token = token
  · exact .inl (List.mem_append_right _ (List.mem_singleton.2 htoken))
  · rcases carries.kept few handover hmem with hsettled | ⟨m, hm, hdata⟩
    · exact .inl (List.mem_append_left _ hsettled)
    · exact .inr ⟨m, List.mem_filter.2 ⟨hm, by simpa using htoken⟩, hdata⟩

/-- A message is sent round again in exchange for one that was settled. -/
theorem resend (carries : q.Carries spacing traffic []) {data : δ} (hspacing : spacing ≠ 0)
    (hslack : traffic.resent.length + q.unacked.length < traffic.handed.length)
    (hdata : data ∈ traffic.written) : q.Carries spacing (traffic.resend data) [data] :=
  { carries with
    conserved := by
      have hmore := carries.conserved.append_right [data]
      rw [List.append_nil, List.append_assoc traffic.written] at hmore
      exact hmore
    exchanged := by
      show (traffic.resent ++ [data]).length + q.unacked.length ≤ traffic.handed.length
      rw [List.length_append, List.length_singleton]
      omega
    known := by
      intro other hother
      rcases List.mem_append.1 hother with hold | hnew
      · exact carries.known other hold
      · exact List.mem_singleton.1 hnew ▸ hdata
    plain := fun hplain => absurd hplain hspacing }

/-! ### Operations -/

/-- A loose message is put in: it becomes ready, or is handed over to a parked read. -/
theorem push {message : Message δ} (carries : q.Carries spacing traffic [message.data]) :
    (q.push message).2.Carries spacing
      (traffic.hand ((q.push message).1.map Prod.snd).toList) [] := by
  rw [Queue.push, if_neg (by rw [carries.isOpen]; decide)]
  split
  next read parked hparked => exact (carries.park parked).deliver
  next hparked =>
    exact traffic.hand_nil.symm ▸ carries.enqueue

/-- A read takes a message, if there is one. -/
theorem read (carries : q.Carries spacing traffic []) :
    q.read.2.Carries spacing (traffic.hand q.read.1.toList) [] := by
  rw [Queue.read, if_neg (by rw [carries.isOpen]; decide)]
  split
  next message ready hpop => exact (carries.pop hpop).deliver
  next hpop =>
    exact traffic.hand_nil.symm ▸ carries

/-- A request takes a message, if there is one, and is parked if there is none. -/
theorem request (carries : q.Carries spacing traffic []) (reader : UInt64) (ticket : Ticket) :
    (∃ handover, (q.request reader ticket).1 = .answered (some handover) ∧
      (q.request reader ticket).2.Carries spacing (traffic.hand [handover]) []) ∨
    ((q.request reader ticket).1 = .parked ∧
      (q.request reader ticket).2.Carries spacing traffic []) := by
  rw [Queue.request, if_neg (by rw [carries.isOpen]; decide)]
  split
  next message ready hpop => exact .inl ⟨_, rfl, (carries.pop hpop).deliver⟩
  next hpop => exact .inr ⟨rfl, carries.park _⟩

/-- An acknowledgement settles an outstanding delivery, and its message may be sent round
again. -/
theorem ack (carries : q.Carries spacing traffic []) {token : UInt64}
    {settlement : Settlement δ} {after : Queue δ}
    (hack : q.ack token = some (settlement, after)) :
    (settlement = .done ∧ after.Carries spacing (traffic.settle token) []) ∨
    ∃ data served, settlement = .redelivered served ∧
      after.Carries spacing (((traffic.settle token).resend data).hand
        (served.map Prod.snd).toList) [] := by
  rw [Queue.ack, Option.map_eq_some_iff] at hack
  obtain ⟨message, hfind, hafter⟩ := hack
  obtain ⟨hmem, hslack, hsettled⟩ := carries.settle hfind
  have hcounted : Carries { q.settle token with acks := q.acks + 1 } spacing
      (traffic.settle token) [] := { hsettled with }
  dsimp only at hafter
  split at hafter
  next hspare =>
    cases hafter
    have hspacing : spacing ≠ 0 := by
      intro hzero
      have hevery : (q.settle token).redeliverEvery = 0 := carries.redeliverEvery.trans hzero
      simp [duplicates, hevery] at hspare
    have hwritten : message.data ∈ traffic.written := carries.payload_mem_written hmem
    exact .inr ⟨_, _, rfl, (hcounted.resend hspacing hslack hwritten).push⟩
  next hdone =>
    cases hafter
    exact .inl ⟨rfl, hcounted⟩

end Carries
end Queue
end BrokerLoad
