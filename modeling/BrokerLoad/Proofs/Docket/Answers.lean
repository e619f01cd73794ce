import BrokerLoad.Proofs.Attended

/-!
# Dockets

A *docket* is a broker client that knows beforehand how each submission turns out, by its
number in the order in which they are made: what receipt there is for it, or what fault the
call ends in.  It treats the submissions of all kinds of producers alike, save that the
receipt of a write comes at once and the one of a submission lets itself be waited for, as
long as the docket says.

Of what is sent a docket keeps every byte, whether or not the call that sends it ends in a
fault.  So two producers that leave behind equal dockets have sent the same messages in the
same order, and have made the same number of calls.
-/

namespace BrokerLoad

/-- A broker client that knows how each submission turns out. -/
structure Docket where
  /-- How the submission of each number turns out. -/
  outcome : Nat → Except Fault Receipt
  /-- How often each receipt is still asked for in vain. -/
  delay : Ticket → Nat
  /-- What was sent, in order. -/
  sent : List Bytes := []

namespace Docket

/-- Puts what is sent on record. -/
def record (docket : Docket) (data : Bytes) : Docket :=
  { docket with sent := docket.sent ++ [data] }

/-- How the next submission turns out. -/
def upcoming (docket : Docket) : Except Fault Receipt := docket.outcome docket.sent.length

/-- The receipt behind a ticket.  Tickets are numbered as what is sent. -/
def receipt (docket : Docket) (ticket : Ticket) : Except Fault Receipt :=
  if ticket < docket.sent.length then docket.outcome ticket else .error .brokenPromise

/-- Has been asked for a receipt in vain. -/
def postpone (docket : Docket) (ticket : Ticket) : Docket :=
  { docket with
    delay := fun other => if other = ticket then docket.delay other - 1 else docket.delay other }

/-- Serves a call. -/
def serve (docket : Docket) : (call : Call) → Served Docket call.Reply
  | .createDestination _ => { reply := .success, client := docket }
  | .createGroup _ => { reply := .success, client := docket }
  | .deleteGroup _ _ => { reply := .success, client := docket }
  | .deleteDestination _ => { reply := .success, client := docket }
  | .shutDown => { reply := (), client := docket }
  | .create _ => { reply := .ok (some 0), client := docket }
  | .openHandle _ => { reply := .ok true, client := docket }
  | .lastError _ => { reply := "", client := docket }
  | .closeHandle _ => { reply := .ok (), client := docket }
  | .release _ => { reply := (), client := docket }
  | .submit _ data =>
    { reply := docket.upcoming.map fun _ => some docket.sent.length, client := docket.record data }
  | .receiptReady ticket =>
    { reply := docket.delay ticket = 0, client := docket.postpone ticket }
  | .takeReceipt ticket => { reply := docket.receipt ticket, client := docket }
  | .write _ data => { reply := docket.upcoming, client := docket.record data }
  | .request _ => { reply := .ok none, client := docket }
  | .deliveryReady _ => { reply := true, client := docket }
  | .takeDelivery _ => { reply := .ok none, client := docket }
  | .read _ => { reply := .ok none, client := docket }
  | .ack _ => { reply := .ok true, client := docket }
  | .nack _ => { reply := .ok true, client := docket }

instance : Client Docket where
  serve call docket := docket.serve call

instance : QuietClient Docket where
  stops_serve call docket := by cases call <;> rfl

end Docket

/-! ## Dockets that differ in their delays -/

namespace Shared

/-- The same, but for how long receipts let themselves be waited for. -/
def delayed (shared : Shared Docket) (delay : Ticket → Nat) : Shared Docket :=
  { shared with client := { shared.client with delay } }

variable (shared : Shared Docket) (delay : Ticket → Nat)

theorem absorb_delayed (emission : Emission) :
    (shared.delayed delay).absorb emission = (shared.absorb emission).delayed delay := by
  cases emission <;> rfl

theorem absorbAll_delayed (emissions : List Emission) :
    (shared.delayed delay).absorbAll emissions = (shared.absorbAll emissions).delayed delay := by
  induction emissions generalizing shared with
  | nil => rfl
  | cons emission rest ih =>
    rw [absorbAll, List.foldl_cons, absorb_delayed]
    exact ih (shared.absorb emission)

theorem client_absorb (emission : Emission) : (shared.absorb emission).client = shared.client := by
  cases emission <;> rfl

theorem client_absorbAll (emissions : List Emission) :
    (shared.absorbAll emissions).client = shared.client := by
  induction emissions generalizing shared with
  | nil => rfl
  | cons emission rest ih => exact (ih _).trans (client_absorb shared emission)

end Shared
end BrokerLoad
