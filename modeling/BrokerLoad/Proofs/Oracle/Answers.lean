import BrokerLoad.Proofs.Attended
import BrokerLoad.Proofs.Envelope

/-!
# Oracles

An *oracle* is a broker client that has made up its mind before anything is sent to it: it has
a verdict on every attempt at every message, and it knows how long each receipt lets itself be
waited for.  It never fails, and it asks nobody to stop.  The number of an attempt is how often
the message has been sent; an oracle counts that itself and takes nobody's word for it.
-/

namespace BrokerLoad

/-- A broker client that knows its verdicts beforehand. -/
structure Oracle where
  /-- The verdict on each attempt at sending a message. -/
  verdict : UInt64 → Nat → WriteStatus
  /-- How often each receipt is still asked for in vain. -/
  delay : Ticket → Nat
  /-- What was sent: the messages and the numbers of the attempts, in order. -/
  sent : List (UInt64 × Nat) := []

namespace Oracle

/-- The message in some bytes, and the number of the attempt that sending them now is. -/
def entry (oracle : Oracle) (data : Bytes) : UInt64 × Nat :=
  let id := (Bytes.id? data).getD 0
  (id, oracle.sent.countP (fun earlier => earlier.1 = id) + 1)

/-- The receipt of what was sent. -/
def receiptOf (oracle : Oracle) (entry : UInt64 × Nat) : Receipt :=
  { status := oracle.verdict entry.1 entry.2 }

/-- Puts what is sent on record. -/
def record (oracle : Oracle) (data : Bytes) : Oracle :=
  { oracle with sent := oracle.sent ++ [oracle.entry data] }

/-- The receipt behind a ticket.  Tickets are numbered as what is sent. -/
def receipt (oracle : Oracle) (ticket : Ticket) : Except Fault Receipt :=
  match oracle.sent[ticket]? with
  | some entry => .ok (oracle.receiptOf entry)
  | none => .error .brokenPromise

/-- Has been asked for a receipt in vain. -/
def postpone (oracle : Oracle) (ticket : Ticket) : Oracle :=
  { oracle with
    delay := fun other => if other = ticket then oracle.delay other - 1 else oracle.delay other }

/-- Serves a call. -/
def serve (oracle : Oracle) : (call : Call) → Served Oracle call.Reply
  | .createDestination _ => { reply := .success, client := oracle }
  | .createGroup _ => { reply := .success, client := oracle }
  | .deleteGroup _ _ => { reply := .success, client := oracle }
  | .deleteDestination _ => { reply := .success, client := oracle }
  | .shutDown => { reply := (), client := oracle }
  | .create _ => { reply := .ok (some 0), client := oracle }
  | .openHandle _ => { reply := .ok true, client := oracle }
  | .lastError _ => { reply := "", client := oracle }
  | .closeHandle _ => { reply := .ok (), client := oracle }
  | .release _ => { reply := (), client := oracle }
  | .submit _ data => { reply := .ok (some oracle.sent.length), client := oracle.record data }
  | .receiptReady ticket =>
    { reply := oracle.delay ticket = 0, client := oracle.postpone ticket }
  | .takeReceipt ticket => { reply := oracle.receipt ticket, client := oracle }
  | .write _ data =>
    { reply := .ok (oracle.receiptOf (oracle.entry data)), client := oracle.record data }
  | .request _ => { reply := .ok none, client := oracle }
  | .deliveryReady _ => { reply := true, client := oracle }
  | .takeDelivery _ => { reply := .ok none, client := oracle }
  | .read _ => { reply := .ok none, client := oracle }
  | .ack _ => { reply := .ok true, client := oracle }
  | .nack _ => { reply := .ok true, client := oracle }

instance : Client Oracle where
  serve call oracle := oracle.serve call

variable (oracle : Oracle)

@[simp] theorem sent_postpone (ticket : Ticket) : (oracle.postpone ticket).sent = oracle.sent := rfl

@[simp] theorem verdict_postpone (ticket : Ticket) :
    (oracle.postpone ticket).verdict = oracle.verdict := rfl

theorem delay_postpone (ticket : Ticket) :
    (oracle.postpone ticket).delay ticket = oracle.delay ticket - 1 := if_pos rfl

@[simp] theorem sent_record (data : Bytes) :
    (oracle.record data).sent = oracle.sent ++ [oracle.entry data] := rfl

@[simp] theorem verdict_record (data : Bytes) : (oracle.record data).verdict = oracle.verdict := rfl

/-- An attempt at a producer's message. -/
theorem entry_message (options : Producer.Options) (id : UInt64) (attempt : UInt32) :
    oracle.entry (options.message id attempt) =
      (id, oracle.sent.countP (fun earlier => earlier.1 = id) + 1) := by
  rw [entry, Producer.Options.id?_message, Option.getD_some]

/-- The receipt of what was sent says what was to be said. -/
theorem receipt_eq {ticket : Ticket} {id : UInt64} {attempt : Nat}
    (filed : oracle.sent[ticket]? = some (id, attempt)) :
    oracle.receipt ticket = .ok { status := oracle.verdict id attempt } := by
  rw [receipt, filed]
  rfl

/-- An oracle does not change its mind. -/
theorem verdict_serve (call : Call) : (oracle.serve call).client.verdict = oracle.verdict := by
  cases call <;> rfl

/-- Nobody is asked to stop. -/
theorem stops_serve (call : Call) : (oracle.serve call).stops = [] := by
  cases call <;> rfl

instance : QuietClient Oracle := ⟨fun call oracle => oracle.stops_serve call⟩

end Oracle

/-! ## Answers to one machine -/

namespace Shared

variable {shared after : Shared Oracle} {handle : Handle} {data : Bytes} {ticket : Ticket}

theorem Answers.of_submit {reply : Except Fault (Option Ticket)}
    (answers : shared.Answers ⟨.broker (.submit handle data), reply⟩ after) :
    reply = .ok (some shared.client.sent.length) ∧ after.client = shared.client.record data :=
  ⟨answers.reply, congrArg Shared.client answers.after⟩

theorem Answers.of_write {reply : Except Fault Receipt}
    (answers : shared.Answers ⟨.broker (.write handle data), reply⟩ after) :
    reply = .ok (shared.client.receiptOf (shared.client.entry data)) ∧
      after.client = shared.client.record data :=
  ⟨answers.reply, congrArg Shared.client answers.after⟩

theorem Answers.of_receiptReady {reply : Bool}
    (answers : shared.Answers ⟨.broker (.receiptReady ticket), reply⟩ after) :
    (reply = true ↔ shared.client.delay ticket = 0) ∧
      after.client = shared.client.postpone ticket := by
  have hreply : reply = decide (shared.client.delay ticket = 0) := answers.reply
  exact ⟨by rw [hreply, decide_eq_true_iff], congrArg Shared.client answers.after⟩

/-- A receipt that is not there yet is asked for again. -/
theorem Answers.delay_pos (answers : shared.Answers ⟨.broker (.receiptReady ticket), false⟩ after) :
    0 < shared.client.delay ticket :=
  Nat.pos_of_ne_zero fun hzero => Bool.false_ne_true (answers.of_receiptReady.1.2 hzero)

theorem Answers.of_takeReceipt {reply : Except Fault Receipt}
    (answers : shared.Answers ⟨.broker (.takeReceipt ticket), reply⟩ after) :
    reply = shared.client.receipt ticket ∧ after.client = shared.client :=
  ⟨answers.reply, congrArg Shared.client answers.after⟩

/-- An oracle does not change its mind, whatever is asked. -/
theorem Answers.verdict_eq {exchange : Exchange} (answers : shared.Answers exchange after) :
    after.client.verdict = shared.client.verdict := by
  obtain ⟨query, reply⟩ := exchange
  cases query with
  | broker call =>
    rw [answers.after]
    exact shared.client.verdict_serve call
  | _ => rw [answers.client_eq fun call heq => by cases heq]

end Shared

/-- An oracle that serves a machine does not change its mind. -/
theorem Attended.verdict_eq {α σ : Type} {body : σ → Request α (Paced σ)}
    {start state : Paced σ} {before shared : Shared Oracle} {turns : List (Turn σ)}
    (attended : Attended body start before turns state shared) :
    shared.client.verdict = before.client.verdict := by
  induction attended with
  | start => rfl
  | ask earlier asks answers ih => exact answers.verdict_eq.trans ih

end BrokerLoad
