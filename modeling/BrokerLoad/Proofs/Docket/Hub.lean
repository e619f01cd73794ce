import BrokerLoad.Proofs.Broker.Pace
import BrokerLoad.Proofs.Docket.Answers

/-!
# A hub that one producer writes to is a docket

Whether a hub accepts a write or throttles it depends on the number of the write only, and so does
the whole receipt (`Hub.receiptAfter`).  If nobody else writes to the hub, then the numbers of the
writes are those of the submissions of the one producer, and the hub answers it as a docket does
that says so beforehand and lets no receipt wait (`Hub.Keeps`).  So what is known of the producer
with the docket is known of it with the hub (`Hub.Keeps.attended`).
-/

namespace BrokerLoad

/-- The same, with another client. -/
def Shared.onto {β γ : Type} (shared : Shared β) (client : γ) : Shared γ :=
  { ledger := shared.ledger, log := shared.log, client }

/-- Whether a call is one of those that a producer makes that submits through a handle. -/
def Call.submits (handle : Handle) : Call → Prop
  | .submit other _ => other = handle
  | .receiptReady _ => True
  | .takeReceipt _ => True
  | .lastError other => other = handle
  | _ => False

namespace Hub

instance : QuietClient Hub where
  stops_serve call hub := by cases call <;> rfl

/-- The receipt of the write that comes after so many others. -/
def receiptAfter (throttleEvery : UInt32) (number : Nat) : Receipt :=
  if paceAt throttleEvery (UInt64.ofNat (number + 1)) = .throttled then ⟨.throttled, "throttled"⟩
  else ⟨.ok, ""⟩

/-- The docket of a hub that nobody has written to. -/
def docket (throttleEvery : UInt32) : Docket where
  outcome number := .ok (receiptAfter throttleEvery number)
  delay _ := 0

/-- The hub keeps to what a docket says about the submissions through one handle. -/
structure Keeps (handle : Handle) (docket : Docket) (hub : Hub) : Prop where
  outcome : ∀ number, docket.outcome number = .ok (receiptAfter hub.throttleEvery number)
  delay : ∀ ticket, docket.delay ticket = 0
  admits : hub.Admits handle
  quiet : hub.lastError handle = ""
  writes : hub.writes = UInt64.ofNat docket.sent.length
  receipts : hub.receipts.toList =
    (List.range docket.sent.length).map (receiptAfter hub.throttleEvery)

namespace Keeps

variable {handle : Handle} {docket : Docket} {hub : Hub}

/-- A write is answered as the docket says. -/
theorem receipt_eq (keeps : Keeps handle docket hub) (data : Bytes) :
    (hub.write handle data).1 = receiptAfter hub.throttleEvery docket.sent.length := by
  rw [keeps.admits.receipt_eq, Desk.nextStatus_eq, receiptAfter, UInt64.ofNat_add, ← keeps.writes]
  rfl

theorem size_receipts (keeps : Keeps handle docket hub) :
    hub.receipts.size = docket.sent.length := by
  have hlength := congrArg List.length keeps.receipts
  rwa [Array.length_toList, List.length_map, List.length_range] at hlength

/-- After a submission the hub keeps to the docket that has it on record. -/
theorem submit (keeps : Keeps handle docket hub) (data : Bytes) :
    (hub.submit handle data).1 = docket.sent.length ∧
      Keeps handle (docket.record data) (hub.submit handle data).2 := by
  have hreceipt := keeps.receipt_eq data
  obtain ⟨-, hdesk⟩ := keeps.admits.write data
  have hthrottle : (hub.write handle data).2.throttleEvery = hub.throttleEvery :=
    congrArg Desk.throttleEvery hdesk
  have hhandles : (hub.write handle data).2.handles = hub.handles := congrArg Desk.handles hdesk
  have hwrites : (hub.write handle data).2.writes = hub.writes + 1 := congrArg Desk.writes hdesk
  have hreceipts : (hub.write handle data).2.receipts = hub.receipts :=
    congrArg Desk.receipts hdesk
  have hsent : (docket.record data).sent.length = docket.sent.length + 1 := by
    rw [Docket.record, List.length_append, List.length_singleton]
  refine ⟨?_, ?_, keeps.delay, ?_, ?_, ?_, ?_⟩
  · rw [← keeps.size_receipts, ← hreceipts]
    rfl
  · intro number
    show docket.outcome number = .ok (receiptAfter (hub.write handle data).2.throttleEvery number)
    rw [hthrottle, keeps.outcome]
  · exact ⟨(keeps.admits.again data).isOpen, (keeps.admits.again data).publisher⟩
  · have hsame : (hub.write handle data).2.lastError handle = hub.lastError handle := by
      rw [lastError, lastError, hhandles]
    exact hsame.trans keeps.quiet
  · show (hub.write handle data).2.writes = _
    rw [hwrites, keeps.writes, hsent, UInt64.ofNat_add]
    rfl
  · show ((hub.write handle data).2.receipts.push (hub.write handle data).1).toList =
      (List.range (docket.record data).sent.length).map
        (receiptAfter (hub.write handle data).2.throttleEvery)
    rw [hreceipts, hreceipt, hthrottle, hsent, Array.toList_push, keeps.receipts, List.range_succ,
      List.map_append, List.map_singleton]

/-- The hub answers the calls of a producer that submits as the docket does. -/
theorem serve (keeps : Keeps handle docket hub) {call : Call} (submits : call.submits handle) :
    (hub.serve call).reply = (docket.serve call).reply ∧
      Keeps handle (docket.serve call).client (hub.serve call).client := by
  cases call with
  | submit other data =>
    obtain rfl : other = handle := submits
    obtain ⟨hticket, hkeeps⟩ := keeps.submit data
    refine ⟨?_, hkeeps⟩
    show Except.ok (some (hub.submit other data).1) =
      Except.map (fun _ => some docket.sent.length) (docket.outcome docket.sent.length)
    rw [hticket, keeps.outcome]
    rfl
  | receiptReady ticket =>
    refine ⟨(decide_eq_true (keeps.delay ticket)).symm, keeps.outcome, fun other => ?_,
      keeps.admits, keeps.quiet, keeps.writes, keeps.receipts⟩
    show (if other = ticket then docket.delay other - 1 else docket.delay other) = 0
    rw [keeps.delay]
    exact ite_self 0
  | takeReceipt ticket =>
    refine ⟨?_, keeps⟩
    show hub.receipt ticket = docket.receipt ticket
    rw [Hub.receipt, Docket.receipt, ← Array.getElem?_toList, keeps.receipts, List.getElem?_map]
    by_cases hmade : ticket < docket.sent.length
    · rw [List.getElem?_range hmade, if_pos hmade, keeps.outcome]
      rfl
    · rw [List.getElem?_eq_none (by simpa using hmade), if_neg hmade]
      rfl
  | lastError other =>
    obtain rfl : other = handle := submits
    exact ⟨keeps.quiet, keeps⟩
  | _ => cases submits

/-- What a worker that submits does with the docket, it does with the hub. -/
theorem attended {α σ : Type} {body : σ → Request α (Paced σ)} {start state : Paced σ}
    {before shared : Shared Docket} {turns : List (Turn σ)}
    (submits : ∀ {state : Paced σ} {call : Call} {next : call.Reply → Paced σ},
      state.request body = .ask (.broker call) next → call.submits handle)
    (keeps : Keeps handle before.client hub)
    (attended : Attended body start before turns state shared) :
    ∃ hub', Attended body start (before.onto hub) turns state (shared.onto hub') ∧
      Keeps handle shared.client hub' := by
  induction attended with
  | start => exact ⟨hub, .start, keeps⟩
  | @ask turns state shared after query next reply earlier asks answers ih =>
    obtain ⟨hub', hattended, hkeeps⟩ := ih
    have hreply : reply = (shared.answer false query).reply := answers.reply
    have hafter : after = (shared.answer false query).client := answers.after
    subst hreply hafter
    cases query with
    | broker call =>
      obtain ⟨hsame, hkept⟩ := hkeeps.serve (submits asks)
      exact ⟨_, hattended.ask asks ⟨hsame.symm, rfl⟩, hkept⟩
    | emit emission =>
      have hemitted : (shared.absorb emission).onto hub' = (shared.onto hub').absorb emission := by
        cases emission <;> rfl
      refine ⟨hub', hattended.ask asks ⟨rfl, hemitted⟩, ?_⟩
      exact (shared.client_absorb emission).symm ▸ hkeeps
    | _ => exact ⟨hub', hattended.ask asks ⟨rfl, rfl⟩, hkeeps⟩

end Keeps

/-! ## A hub that nobody has written to -/

/-- Whether a hub is open, has a destination, and nobody has written to it. -/
structure IsFresh (hub : Hub) (path : String) : Prop where
  isOpen : hub.closed = false
  destination : (hub.groups? path).isSome = true
  writes : hub.writes = 0
  receipts : hub.receipts = #[]

namespace IsFresh

variable {hub : Hub} {path : String}

/-- A hub that has just been set up is fresh. -/
theorem createDestination (throttleEvery redeliverEvery : UInt32) (named : path ≠ "") :
    (({ throttleEvery, redeliverEvery } : Hub).createDestination { path }).2.IsFresh path := by
  constructor <;> simp [Hub.createDestination, groups?, named]

/-- A publisher of a fresh hub can be created and opened, and then the hub keeps to its docket. -/
theorem opens (fresh : hub.IsFresh path) :
    (hub.create (.publisher path)).1 = some hub.handles.size ∧
      ((hub.create (.publisher path)).2.openHandle hub.handles.size).1 = true ∧
      Keeps hub.handles.size (docket hub.throttleEvery)
        ((hub.create (.publisher path)).2.openHandle hub.handles.size).2 := by
  obtain ⟨hcreated, hopened⟩ := create_openHandle fresh.isOpen fresh.destination
  rw [hopened]
  refine ⟨hcreated, rfl, fun number => rfl, fun ticket => rfl,
    .of_push fresh.isOpen fresh.destination, ?_, fresh.writes, ?_⟩
  · simp [lastError]
  · show hub.receipts.toList = _
    rw [fresh.receipts]
    rfl

end IsFresh
end Hub
end BrokerLoad
