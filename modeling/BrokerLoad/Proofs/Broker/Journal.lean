import BrokerLoad.Proofs.Broker.Outstanding
import BrokerLoad.Proofs.Ledger.Service

/-!
# The journal of a queue

`Queue.Journal` is what a queue has done so far: what was put into it, what it handed over,
which reads were parked in it and were not dropped, and which of them it served with what.
`Queue.Keeps` says that a queue keeps its journal.

1. Nothing waits on both sides: no read is parked while a message is ready.
2. As long as the queue is open, what was put in is what was handed over and, behind it, what
   is ready.  A message that was put in while a read was parked is handed over at once, and
   by the first fact there is no ready message that it would overtake.
3. As long as the queue is open, the reads that were parked are those that were served and,
   behind them, those that still are parked; and they were served in the order of handovers.
4. Tokens are given out one after another, and what is outstanding under a token is what was
   handed over under it.  A message that is outstanding has been delivered at least once and
   no more often than the queue has handed anything over, so as long as that is less than
   `2 ^ 32` its count is not at its end.

Of these a queue that was shut down keeps the fourth, and the first because nothing is left
on either side.

A message that an operation has taken out of the ready ones, or is about to put in, is
*loose* until it is handed over; `Queue.Keeps` has it as a parameter.
-/

namespace BrokerLoad
namespace Queue

variable {δ : Type}

/-- What a queue has done so far. -/
structure Journal (δ : Type) where
  /-- What was put in. -/
  put : List δ := []
  /-- What was handed over. -/
  handed : List (Handover δ) := []
  /-- The tickets of the reads that were parked and not dropped. -/
  waited : List Ticket := []
  /-- The parked reads that were served, and what they got. -/
  served : List (Ticket × Handover δ) := []

namespace Journal

/-- More was put in. -/
def add (journal : Journal δ) (data : List δ) : Journal δ :=
  { journal with put := journal.put ++ data }

/-- Other reads waited. -/
def line (journal : Journal δ) (tickets : List Ticket) : Journal δ :=
  { journal with waited := tickets }

/-- More was handed over. -/
def hand (journal : Journal δ) (handovers : List (Handover δ)) : Journal δ :=
  { journal with handed := journal.handed ++ handovers }

/-- A read was parked. -/
def park (journal : Journal δ) (ticket : Ticket) : Journal δ :=
  { journal with waited := journal.waited ++ [ticket] }

/-- A parked read was served, if one was. -/
def serve (journal : Journal δ) (served : Option (Ticket × Handover δ)) : Journal δ :=
  { journal.hand (served.map Prod.snd).toList with served := journal.served ++ served.toList }

/-- Parked reads were dropped. -/
def drop (journal : Journal δ) (tickets : List Ticket) : Journal δ :=
  { journal with waited := journal.waited.filter fun ticket => ticket ∉ tickets }

@[simp] theorem put_hand (journal : Journal δ) (handovers : List (Handover δ)) :
    (journal.hand handovers).put = journal.put := rfl

@[simp] theorem put_serve (journal : Journal δ) (served : Option (Ticket × Handover δ)) :
    (journal.serve served).put = journal.put := rfl

@[simp] theorem handed_serve (journal : Journal δ) (served : Option (Ticket × Handover δ)) :
    (journal.serve served).handed = journal.handed ++ (served.map Prod.snd).toList := rfl

theorem add_nil (journal : Journal δ) : journal.add [] = journal := by
  rw [add, List.append_nil]

theorem serve_none (journal : Journal δ) : journal.serve none = journal := by
  simp only [serve, hand, Option.map_none, Option.toList_none, List.append_nil]

end Journal

/-- A queue keeps its journal, but for some loose messages. -/
structure Keeps (q : Queue δ) (journal : Journal δ) (loose : List (Message δ)) : Prop where
  /-- Nothing waits on both sides. -/
  oneSided : q.parked = [] ∨ q.ready.toList = []
  /-- Nothing waits at all after the end. -/
  shut : q.closed = true → q.parked = [] ∧ q.ready.toList = []
  /-- What was put in first is handed over first. -/
  ordered : q.closed = false → journal.put =
    journal.handed.map Handover.payload ++ (loose ++ q.ready.toList).map Message.data
  /-- What was parked first is served first. -/
  lined : q.closed = false →
    journal.waited = journal.served.map Prod.fst ++ q.parked.map Parked.ticket
  /-- What was served was handed over in that order. -/
  inTurn : (journal.served.map Prod.snd).Sublist journal.handed
  /-- A ticket is for one read. -/
  nodup : journal.waited.Nodup
  /-- Tokens are given out one after another. -/
  tokens : journal.handed.map Handover.token = wordsAfter 0 journal.handed.length
  /-- The next one is given out next. -/
  nextToken : q.nextToken = UInt64.ofNat (journal.handed.length + 1)
  /-- What is outstanding was handed over. -/
  outstanding : ∀ entry ∈ q.unacked, ⟨entry.1, entry.2.data⟩ ∈ journal.handed
  /-- One message is outstanding under a token. -/
  distinct : (q.unacked.map Prod.fst).Nodup
  /-- No message that waits was delivered more often than anything was. -/
  waiting : ∀ message ∈ loose ++ q.ready.toList,
    message.deliveries.toNat ≤ journal.handed.length
  /-- Nor was one that is outstanding, and it was delivered. -/
  delivered : journal.handed.length < 2 ^ 32 → ∀ entry ∈ q.unacked,
    1 ≤ entry.2.deliveries.toNat ∧ entry.2.deliveries.toNat ≤ journal.handed.length

/-! ## Cases of the operations -/

/-- Putting a message in does nothing, or makes it ready, or serves the first parked read. -/
theorem push_cases (q : Queue δ) (message : Message δ) :
    (q.closed = true ∧ q.push message = (none, q)) ∨
    (q.closed = false ∧ q.parked = [] ∧
      q.push message = (none, { q with ready := q.ready.push message })) ∨
    ∃ read rest, q.closed = false ∧ q.parked = read :: rest ∧
      q.push message = (some (read.ticket, ({ q with parked := rest }.deliver message).1),
        ({ q with parked := rest }.deliver message).2) := by
  rw [push]
  cases hclosed : q.closed with
  | true => exact .inl ⟨rfl, rfl⟩
  | false =>
    rw [if_neg Bool.false_ne_true]
    cases hparked : q.parked with
    | nil => exact .inr (.inl ⟨rfl, rfl, rfl⟩)
    | cons read rest => exact .inr (.inr ⟨read, rest, rfl, rfl, rfl⟩)

/-- The first parked read is no longer parked if it was served. -/
theorem parked_push (q : Queue δ) (message : Message δ) : q.parked.map Parked.ticket =
    ((q.push message).1.map Prod.fst).toList ++ (q.push message).2.parked.map Parked.ticket := by
  rcases q.push_cases message with
    ⟨-, hpush⟩ | ⟨-, -, hpush⟩ | ⟨read, rest, -, hparked, hpush⟩
  · rw [hpush]
    rfl
  · rw [hpush]
    rfl
  · rw [hpush, hparked]
    rfl

theorem closed_push (q : Queue δ) (message : Message δ) :
    (q.push message).2.closed = q.closed := by
  rcases q.push_cases message with ⟨-, hpush⟩ | ⟨-, -, hpush⟩ | ⟨_, _, -, -, hpush⟩ <;> rw [hpush]
  rfl

/-- A read leaves the parked reads alone. -/
theorem parked_read (q : Queue δ) : q.read.2.parked = q.parked := by
  rw [read]
  split
  · rfl
  · split <;> rfl

theorem closed_read (q : Queue δ) : q.read.2.closed = q.closed := by
  rw [read]
  split
  · rfl
  · split <;> rfl

/-- What becomes of a queue when an outstanding message is settled: it is out of the queue
for good, or put in again. -/
inductive Settles (q : Queue δ) (token : UInt64) : Settlement δ → Queue δ → Prop
  | aside {message : Message δ} {settlement : Settlement δ} (acks : UInt64)
      (hfind : q.find? token = some message) (hdone : ∀ served, settlement ≠ .redelivered served) :
      Settles q token settlement { q.settle token with acks := acks }
  | again {message : Message δ} (acks : UInt64) (hfind : q.find? token = some message) :
      Settles q token
        (.redelivered ({ q.settle token with acks := acks }.push message).1)
        ({ q.settle token with acks := acks }.push message).2

theorem settles_of_ack {q after : Queue δ} {token : UInt64} {settlement : Settlement δ}
    (hack : q.ack token = some (settlement, after)) : q.Settles token settlement after := by
  rw [ack, Option.map_eq_some_iff] at hack
  obtain ⟨message, hfind, hafter⟩ := hack
  dsimp only at hafter
  split at hafter
  · cases hafter
    exact .again _ hfind
  · cases hafter
    exact .aside _ hfind fun _ => nofun

theorem settles_of_nack {q after : Queue δ} {token : UInt64} {settlement : Settlement δ}
    (hnack : q.nack token = some (settlement, after)) : q.Settles token settlement after := by
  rw [nack, Option.map_eq_some_iff] at hnack
  obtain ⟨message, hfind, hafter⟩ := hnack
  dsimp only at hafter
  split at hafter
  · cases hafter
    exact .aside q.acks hfind fun _ => nofun
  · split at hafter
    · cases hafter
      exact .aside q.acks hfind fun _ => nofun
    · cases hafter
      exact .again q.acks hfind

/-- The data that go round again when a delivery is settled so. -/
def again (q : Queue δ) (token : UInt64) : Option (Settlement δ × Queue δ) → List δ
  | some (.redelivered _, _) => ((q.find? token).map Message.data).toList
  | _ => []

/-- The parked read that is served by a settlement, if one is. -/
def Settlement.served : Settlement δ → Option (Ticket × Handover δ)
  | .redelivered served => served
  | _ => none

theorem Settles.parked {q after : Queue δ} {token : UInt64} {settlement : Settlement δ}
    (hsettles : q.Settles token settlement after) : q.parked.map Parked.ticket =
      (settlement.served.map Prod.fst).toList ++ after.parked.map Parked.ticket := by
  cases hsettles with
  | aside acks hfind hdone =>
    cases settlement with
    | redelivered served => exact absurd rfl (hdone served)
    | done => rfl
    | deadLettered => rfl
  | again acks hfind => exact parked_push { q.settle token with acks := acks } _

theorem Settles.closed {q after : Queue δ} {token : UInt64} {settlement : Settlement δ}
    (hsettles : q.Settles token settlement after) : after.closed = q.closed := by
  cases hsettles with
  | aside acks hfind hdone => rfl
  | again acks hfind => exact closed_push { q.settle token with acks := acks } _

namespace Keeps

variable {q : Queue δ} {journal : Journal δ} {loose : List (Message δ)} {message : Message δ}

theorem create (maxDeliveries redeliverEvery : UInt32) :
    (Queue.create maxDeliveries redeliverEvery : Queue δ).Keeps {} [] where
  oneSided := .inl rfl
  shut := nofun
  ordered _ := rfl
  lined _ := rfl
  inTurn := .refl _
  nodup := .nil
  tokens := rfl
  nextToken := rfl
  outstanding := by simp [Queue.create]
  distinct := .nil
  waiting := by
    intro message hmessage
    cases hmessage
  delivered _ := by simp [Queue.create]

/-! ## What the journal says about tokens -/

/-- A token that was given out is below the next one. -/
theorem token_lt (keeps : q.Keeps journal loose) (few : journal.handed.length + 1 < 2 ^ 64)
    {handover : Handover δ} (hmem : handover ∈ journal.handed) :
    handover.token < q.nextToken := by
  have htoken : handover.token ∈ wordsAfter 0 journal.handed.length :=
    keeps.tokens ▸ List.mem_map_of_mem hmem
  obtain ⟨i, hi, heq⟩ := List.mem_map.1 htoken
  rw [List.mem_range] at hi
  rw [keeps.nextToken, ← heq, UInt64.zero_add, UInt64.lt_iff_toNat_lt,
    UInt64.toNat_ofNat_of_lt' (by show i + 1 < 2 ^ 64; omega), UInt64.toNat_ofNat_of_lt' few]
  omega

/-- A token means one handover. -/
theorem eq_of_token_eq (keeps : q.Keeps journal loose) (few : journal.handed.length ≤ 2 ^ 64)
    {handover other : Handover δ} (hmem : handover ∈ journal.handed)
    (hother : other ∈ journal.handed) (htoken : handover.token = other.token) :
    handover = other := by
  have hnodup : (journal.handed.map Handover.token).Nodup := by
    rw [keeps.tokens]
    exact nodup_wordsAfter 0 few
  exact List.inj_on_of_nodup_map hnodup hmem hother htoken

/-- What is outstanding has a token below the next one. -/
theorem outstanding_lt (keeps : q.Keeps journal loose) (few : journal.handed.length + 1 < 2 ^ 64)
    {entry : UInt64 × Message δ} (hentry : entry ∈ q.unacked) : entry.1 < q.nextToken :=
  keeps.token_lt few (keeps.outstanding entry hentry)

/-- A message that is handed over becomes outstanding under a token of its own. -/
theorem unacked_deliver (keeps : q.Keeps journal loose)
    (few : journal.handed.length + 1 < 2 ^ 64) (message : Message δ) :
    (q.deliver message).2.unacked =
      q.unacked ++ [(q.nextToken, { message with deliveries := message.deliveries + 1 })] := by
  refine unacked_deliver_of_notMem (fun hmem => ?_) message
  obtain ⟨entry, hentry, hsame⟩ := List.mem_map.1 hmem
  have hlt := keeps.outstanding_lt few hentry
  exact UInt64.lt_irrefl _ (hsame ▸ hlt)

/-- A parked read is one that waited. -/
theorem ticket_mem_waited (keeps : q.Keeps journal loose) {read : Parked}
    (hread : read ∈ q.parked) : read.ticket ∈ journal.waited := by
  have hopen : q.closed = false := by
    cases hclosed : q.closed with
    | false => rfl
    | true =>
      rw [(keeps.shut hclosed).1] at hread
      cases hread
  rw [keeps.lined hopen]
  exact List.mem_append_right _ (List.mem_map_of_mem hread)

/-- A ticket is parked once. -/
theorem nodup_tickets (keeps : q.Keeps journal loose) : (q.parked.map Parked.ticket).Nodup := by
  cases hclosed : q.closed with
  | false =>
    have hnodup := keeps.nodup
    rw [keeps.lined hclosed] at hnodup
    exact (List.nodup_append.1 hnodup).2.1
  | true =>
    rw [(keeps.shut hclosed).1]
    exact .nil

/-! ## Steps -/

/-- A message is taken out of the ready ones. -/
theorem pop (keeps : q.Keeps journal []) {ready : Fifo (Message δ)}
    (hpop : q.ready.pop? = some (message, ready)) :
    Keeps { q with ready := ready } journal [message] := by
  have hready : q.ready.toList = message :: ready.toList := Fifo.toList_of_pop? hpop
  have hparked : q.parked = [] := by
    rcases keeps.oneSided with hnone | hnone
    · exact hnone
    · rw [hready] at hnone
      cases hnone
  exact { keeps with
    oneSided := .inl hparked
    shut := fun hclosed => by
      have hnone := (keeps.shut hclosed).2
      rw [hready] at hnone
      cases hnone
    ordered := fun hopen => by
      rw [keeps.ordered hopen, hready]
      rfl
    waiting := fun other hother => keeps.waiting other (hready ▸ hother) }

/-- A loose message is handed over. -/
theorem deliver (keeps : q.Keeps journal [message]) :
    (q.deliver message).2.Keeps (journal.hand [(q.deliver message).1]) [] where
  oneSided := keeps.oneSided
  shut := keeps.shut
  ordered hopen := by
    have hbefore := keeps.ordered hopen
    rw [Journal.put_hand, hbefore, Journal.hand]
    simp only [List.map_append, List.append_assoc]
    rfl
  lined := keeps.lined
  inTurn := keeps.inTurn.trans (List.sublist_append_left _ _)
  nodup := keeps.nodup
  tokens := by
    rw [Journal.hand, List.map_append, List.length_append, List.length_singleton,
      wordsAfter_succ, keeps.tokens, UInt64.zero_add, ← keeps.nextToken]
    rfl
  nextToken := by
    have hnext : (q.deliver message).2.nextToken = q.nextToken + 1 := rfl
    rw [hnext, keeps.nextToken, Journal.hand, List.length_append, List.length_singleton,
      UInt64.ofNat_add (journal.handed.length + 1)]
    rfl
  outstanding entry hentry := by
    rw [Journal.hand, List.mem_append]
    rcases mem_unacked_deliver hentry with hold | rfl
    · exact .inl (keeps.outstanding entry hold)
    · exact .inr (List.mem_singleton_self _)
  distinct := distinct_deliver keeps.distinct message
  waiting other hother := by
    have hle := keeps.waiting other (List.mem_append_right _ hother)
    rw [Journal.hand, List.length_append]
    omega
  delivered few := by
    rw [Journal.hand, List.length_append, List.length_singleton] at few ⊢
    have hcount : message.deliveries.toNat ≤ journal.handed.length :=
      keeps.waiting message (List.mem_append_left _ (List.mem_singleton_self _))
    rw [keeps.unacked_deliver (by omega)]
    intro entry hentry
    rcases List.mem_append.1 hentry with hold | hnew
    · have hbounds := keeps.delivered (by omega) entry hold
      omega
    · rw [List.mem_singleton.1 hnew]
      have hsucc : (message.deliveries + 1).toNat = message.deliveries.toNat + 1 := by
        rw [UInt32.toNat_add]
        exact Nat.mod_eq_of_lt (by show message.deliveries.toNat + 1 < 2 ^ 32; omega)
      show 1 ≤ (message.deliveries + 1).toNat ∧ (message.deliveries + 1).toNat ≤ _
      omega

/-- An outstanding message is settled. -/
theorem settle (keeps : q.Keeps journal []) (token acks : UInt64) :
    Keeps { q.settle token with acks := acks } journal [] :=
  { keeps with
    outstanding := fun entry hentry => keeps.outstanding entry (List.mem_of_mem_filter hentry)
    distinct := distinct_settle keeps.distinct token
    delivered := fun few entry hentry => keeps.delivered few entry (List.mem_of_mem_filter hentry) }

/-! ## Operations -/

/-- A message is put in: it becomes ready, or serves a parked read. -/
theorem push (keeps : q.Keeps journal [])
    (hcount : message.deliveries.toNat ≤ journal.handed.length) :
    (q.push message).2.Keeps ((journal.add [message.data]).serve (q.push message).1) [] := by
  rcases q.push_cases message with
    ⟨hclosed, hpush⟩ | ⟨hopen, hparked, hpush⟩ | ⟨read, rest, hopen, hparked, hpush⟩
  · rw [hpush, Journal.serve_none]
    exact { keeps with ordered := fun hopen => absurd (hclosed.symm.trans hopen) nofun }
  · rw [hpush, Journal.serve_none]
    exact { keeps with
      oneSided := .inl hparked
      shut := fun hclosed => absurd (hopen.symm.trans hclosed) nofun
      ordered := fun _ => by
        show journal.put ++ [message.data] = _
        rw [keeps.ordered hopen, Fifo.toList_push]
        simp only [List.nil_append, List.map_append, List.map_singleton, List.append_assoc,
          Journal.add]
      waiting := by
        intro other hother
        rw [List.nil_append, Fifo.toList_push, List.mem_append, List.mem_singleton] at hother
        rcases hother with hold | rfl
        · exact keeps.waiting other hold
        · exact hcount }
  · have hready : q.ready.toList = [] := by
      rcases keeps.oneSided with hnone | hnone
      · rw [hparked] at hnone
        cases hnone
      · exact hnone
    -- Between the two the read is out of the line and the message is not yet handed over.
    have hline : (journal.served.map Prod.fst ++ rest.map Parked.ticket).Nodup := by
      have hall := keeps.nodup
      rw [keeps.lined hopen, hparked, List.map_cons] at hall
      exact hall.sublist ((List.sublist_cons_self _ _).append_left _)
    have hloose : Keeps { q with parked := rest } ((journal.add [message.data]).line
        (journal.served.map Prod.fst ++ rest.map Parked.ticket)) [message] :=
      { keeps with
        oneSided := .inr hready
        shut := fun hclosed => absurd (hopen.symm.trans hclosed) nofun
        ordered := fun _ => by
          show journal.put ++ [message.data] = _
          rw [keeps.ordered hopen, hready]
          simp only [List.map_nil, List.append_nil, List.map_singleton, Journal.add, Journal.line]
        lined := fun _ => rfl
        nodup := hline
        waiting := by
          intro other hother
          rw [hready, List.append_nil, List.mem_singleton] at hother
          exact hother ▸ hcount }
    have hhanded := hloose.deliver
    rw [hpush]
    exact { hhanded with
      lined := fun _ => by
        show journal.waited = _
        rw [keeps.lined hopen, hparked]
        simp only [Journal.serve, Journal.add, Option.toList_some, List.map_append, List.map_cons,
          List.map_nil, List.append_assoc, List.cons_append, List.nil_append]
        rfl
      inTurn := by
        show ((journal.served ++ [_]).map Prod.snd).Sublist (journal.handed ++ [_])
        rw [List.map_append]
        exact keeps.inTurn.append (.refl _)
      nodup := keeps.nodup }

/-- A read takes the first ready message, if there is one. -/
theorem read (keeps : q.Keeps journal []) :
    q.read.2.Keeps (journal.hand q.read.1.toList) [] := by
  have hsame : q.Keeps (journal.hand []) [] := by
    rw [Journal.hand, List.append_nil]
    exact keeps
  rw [Queue.read]
  split
  · exact hsame
  · split
    next message ready hpop => exact (keeps.pop hpop).deliver
    next => exact hsame

/-- A request takes the first ready message, if there is one.  Else it is parked, in a queue
that is open. -/
theorem request (q : Queue δ) (reader : UInt64) (ticket : Ticket) :
    (q.request reader ticket = (.answered none, q)) ∨
    (∃ handover changed, q.request reader ticket = (.answered (some handover), changed) ∧
      changed.parked = q.parked ∧ changed.closed = q.closed ∧
      ∀ {journal}, q.Keeps journal [] → changed.Keeps (journal.hand [handover]) []) ∨
    (∃ changed, q.request reader ticket = (.parked, changed) ∧
      changed.parked = q.parked ++ [⟨reader, ticket⟩] ∧ changed.closed = q.closed ∧
      ∀ {journal}, q.Keeps journal [] → ticket ∉ journal.waited →
        changed.Keeps (journal.park ticket) []) := by
  rw [Queue.request]
  cases hclosed : q.closed with
  | true => exact .inl rfl
  | false =>
    rw [if_neg Bool.false_ne_true]
    split
    next message ready hpop =>
      refine .inr (.inl ⟨_, _, rfl, rfl, rfl, fun {journal} keeps => ?_⟩)
      have hdelivered := (keeps.pop hpop).deliver
      rw [hclosed] at hdelivered
      exact hdelivered
    next hpop =>
      refine .inr (.inr ⟨_, rfl, rfl, rfl, fun {journal} keeps hnew => ?_⟩)
      have hparked : Keeps { q with parked := q.parked ++ [⟨reader, ticket⟩] }
          (journal.park ticket) [] :=
        { keeps with
          oneSided := .inr (Fifo.pop?_eq_none_iff.1 hpop)
          shut := fun hshut => absurd (hclosed.symm.trans hshut) nofun
          lined := fun _ => by
            rw [Journal.park, keeps.lined hclosed, List.map_append, List.append_assoc]
            rfl
          nodup := by
            rw [Journal.park, List.nodup_append]
            exact ⟨keeps.nodup, List.nodup_singleton _, fun t ht t' ht' heq =>
              hnew (List.mem_singleton.1 ht' ▸ heq ▸ ht)⟩ }
      rw [hclosed] at hparked
      exact hparked

/-- A message that is settled is out of the queue, or put in again. -/
theorem settles (keeps : q.Keeps journal []) {token : UInt64} {settlement : Settlement δ}
    {after : Queue δ} (hsettles : q.Settles token settlement after) :
    after.Keeps ((journal.add (q.again token (some (settlement, after)))).serve
      settlement.served) [] := by
  cases hsettles with
  | aside acks hfind hdone =>
    have hsettled := keeps.settle token acks
    cases settlement with
    | redelivered served => exact absurd rfl (hdone served)
    | done => exact journal.add_nil.symm ▸ journal.serve_none.symm ▸ hsettled
    | deadLettered => exact journal.add_nil.symm ▸ journal.serve_none.symm ▸ hsettled
  | @again message acks hfind =>
    have hentry := mem_unacked_of_find? hfind
    have hcount : message.deliveries.toNat ≤ journal.handed.length := by
      by_cases few : journal.handed.length < 2 ^ 32
      · exact (keeps.delivered few _ hentry).2
      · have hword : message.deliveries.toNat < 2 ^ 32 := message.deliveries.toNat_lt
        omega
    have hdata : q.again token (some (.redelivered
        ({ q.settle token with acks := acks }.push message).1,
        ({ q.settle token with acks := acks }.push message).2)) = [message.data] := by
      rw [Queue.again, hfind]
      rfl
    rw [hdata]
    exact (keeps.settle token acks).push hcount

/-- Parked reads of a reader are dropped. -/
theorem drop (keeps : q.Keeps journal []) (reader : UInt64) :
    (q.drop reader).2.Keeps (journal.drop (q.drop reader).1) [] := by
  refine { keeps with
    oneSided := ?_
    shut := fun hclosed => ⟨?_, (keeps.shut hclosed).2⟩
    lined := fun hopen => ?_
    nodup := keeps.nodup.filter _ }
  · refine keeps.oneSided.imp_left fun hnone => ?_
    show q.parked.filter _ = []
    rw [hnone, List.filter_nil]
  · show q.parked.filter _ = []
    rw [(keeps.shut hclosed).1, List.filter_nil]
  · have hlined := keeps.lined hopen
    have hnodup := keeps.nodup
    rw [hlined] at hnodup
    obtain ⟨-, hparked, hapart⟩ := List.nodup_append.1 hnodup
    show journal.waited.filter _ = _ ++ (q.parked.filter _).map _
    rw [hlined, List.filter_append]
    congr 1
    · -- What was served is no longer parked, so it cannot be dropped.
      refine List.filter_eq_self.2 fun ticket hticket => ?_
      refine decide_eq_true fun hdropped => ?_
      obtain ⟨read, hread, rfl⟩ := List.mem_map.1 hdropped
      exact hapart _ hticket _ (List.mem_map_of_mem (List.mem_of_mem_filter hread)) rfl
    · rw [List.filter_map]
      congr 1
      refine List.filter_congr fun read hread => decide_eq_decide.2 (not_congr ?_)
      show read.ticket ∈ (q.parked.filter _).map _ ↔ _
      rw [List.mem_map]
      constructor
      · rintro ⟨other, hother, heq⟩
        have hsame : other = read :=
          List.inj_on_of_nodup_map hparked (List.mem_of_mem_filter hother) hread heq
        exact hsame ▸ of_decide_eq_true (List.mem_filter.1 hother).2
      · exact fun hreader => ⟨read, List.mem_filter.2 ⟨hread, decide_eq_true hreader⟩, rfl⟩

/-- Nothing waits in a queue that is shut down. -/
theorem shutDown (keeps : q.Keeps journal []) : q.shutDown.2.Keeps journal [] :=
  { keeps with
    oneSided := .inl rfl
    shut := fun _ => ⟨rfl, rfl⟩
    ordered := nofun
    lined := nofun
    waiting := by simp [Queue.shutDown] }

end Keeps
end Queue
end BrokerLoad
