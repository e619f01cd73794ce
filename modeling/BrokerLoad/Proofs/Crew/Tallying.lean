import BrokerLoad.Proofs.Broker.Pace
import BrokerLoad.Proofs.Crew.Writers

/-!
# What a hub counts of its writes

While a crew writes to it, a hub passes a verdict on every write, in the order of the writes,
and it passes them at its pace.  Its counters count the verdicts: how many writes there were,
how many were accepted and how many throttled (`Hub.IsTallied`).

The verdict on a submission is not in the reply, but in the receipt that its ticket is for.
A hub keeps all its receipts, so what it says of a ticket now it said from the beginning.
-/

namespace BrokerLoad

/-! ## The tickets of a hub -/

/-- What a hub says about the submission that a ticket is for. -/
def Hub.statusOf (hub : Hub) (ticket : Ticket) : WriteStatus :=
  ((hub.receipts[ticket]?).map Receipt.status).getD .failed

namespace Exchange

variable {receipts : Array Receipt} {exchange : Exchange}

/-- Whether the receipts that an exchange is about are among those given out. -/
def IsFiled (receipts : Array Receipt) : Exchange → Prop
  | ⟨.broker (.submit _ _), .ok (some ticket)⟩ => ticket < receipts.size
  | ⟨.broker (.takeReceipt ticket), .ok answer⟩ => receipts[ticket]? = some answer
  | _ => True

theorem getElem?_push_of_lt {ticket : Ticket} (hlt : ticket < receipts.size) (answer : Receipt) :
    (receipts.push answer)[ticket]? = receipts[ticket]? := by
  rw [Array.getElem?_push_lt hlt, Array.getElem?_eq_getElem hlt]

/-- What is filed stays filed. -/
theorem IsFiled.push (filed : exchange.IsFiled receipts) (answer : Receipt) :
    exchange.IsFiled (receipts.push answer) := by
  obtain ⟨query, reply⟩ := exchange
  cases query with
  | broker call =>
    cases call with
    | submit handle data =>
      match reply, filed with
      | .ok (some ticket), filed =>
        show ticket < (receipts.push answer).size
        rw [Array.size_push]
        exact Nat.lt_succ_of_lt filed
      | .ok none, _ => trivial
      | .error _, _ => trivial
    | takeReceipt ticket =>
      match reply, filed with
      | .ok found, filed =>
        exact (getElem?_push_of_lt (Array.getElem?_eq_some_iff.1 filed).1 answer).trans filed
      | .error _, _ => trivial
    | _ => trivial
  | _ => trivial

/-- A hub says of a ticket what the receipts say that it has given out. -/
theorem IsFiled.upholds {hub : Hub} (filed : exchange.IsFiled hub.receipts) :
    exchange.Upholds hub.statusOf := by
  obtain ⟨query, reply⟩ := exchange
  cases query with
  | broker call =>
    cases call with
    | takeReceipt ticket =>
      match reply, filed with
      | .ok found, filed =>
        show found.status = hub.statusOf ticket
        rw [Hub.statusOf, show hub.receipts[ticket]? = some found from filed]
        rfl
      | .error _, _ => trivial
    | _ => trivial
  | _ => trivial

/-- The verdict on what was submitted stays what it is. -/
theorem IsFiled.verdict?_eq {before after : Hub} {answer : Receipt}
    (filed : exchange.IsFiled before.receipts) (receipts : after.receipts = before.receipts ∨
      after.receipts = before.receipts.push answer) :
    exchange.verdict? after.statusOf = exchange.verdict? before.statusOf := by
  obtain ⟨query, reply⟩ := exchange
  cases query with
  | broker call =>
    cases call with
    | submit handle data =>
      match reply, filed with
      | .ok (some ticket), filed =>
        show some (after.statusOf ticket) = some (before.statusOf ticket)
        rw [Hub.statusOf, Hub.statusOf]
        rcases receipts with hsame | hpushed
        · rw [hsame]
        · rw [hpushed, getElem?_push_of_lt filed]
      | .ok none, _ => rfl
      | .error _, _ => rfl
    | write handle data => cases reply <;> rfl
    | _ => rfl
  | _ => rfl

end Exchange

namespace Hub

/-! ## The count -/

/-- A hub has counted so many writes, and passed a verdict on each of them. -/
structure IsTallied (throttleEvery : UInt32) (exchanges : List Exchange) (hub : Hub)
    (total : Nat) : Prop where
  filed : ∀ exchange ∈ exchanges, exchange.IsFiled hub.receipts
  paced : hub.throttleEvery = throttleEvery
  verdicts : verdicts hub.statusOf exchanges = pace throttleEvery total
  writes : hub.writes = UInt64.ofNat total
  accepted : hub.counts.accepted = UInt64.ofNat ((pace throttleEvery total).count .ok)
  throttled : hub.counts.throttled = UInt64.ofNat ((pace throttleEvery total).count .throttled)

namespace IsTallied

variable {throttleEvery : UInt32} {exchanges : List Exchange} {total : Nat}

/-- What is asked without writing is on file if it is served. -/
theorem filed_of_silent {before after : Hub} {exchange : Exchange}
    (served : Occasion.IsServed ⟨before, exchange, after⟩)
    (silent : exchange.1.isWriting = false) : exchange.IsFiled before.receipts := by
  obtain ⟨query, reply⟩ := exchange
  cases query with
  | broker call =>
    cases call with
    | submit handle data => cases silent
    | takeReceipt ticket =>
      match reply, served with
      | .ok answer, ⟨hreply, _⟩ =>
        have hreceipt : Except.ok answer = before.receipt ticket := hreply
        rw [Hub.receipt] at hreceipt
        split at hreceipt
        next receipt hfound => exact hfound.trans (congrArg some (Except.ok.inj hreceipt).symm)
        next => cases hreceipt
      | .error _, _ => trivial
    | _ => trivial
  | _ => trivial

/-- The counters of a desk after a write that was admitted. -/
theorem afterWrite {before : Hub} (tallied : IsTallied throttleEvery exchanges before total) :
    before.desk.nextStatus = paceAt throttleEvery (UInt64.ofNat (total + 1)) ∧
      before.desk.afterWrite.writes = UInt64.ofNat (total + 1) ∧
      before.desk.afterWrite.accepted =
        UInt64.ofNat ((pace throttleEvery (total + 1)).count .ok) ∧
      before.desk.afterWrite.throttled =
        UInt64.ofNat ((pace throttleEvery (total + 1)).count .throttled) := by
  have hwrites : before.desk.writes + 1 = UInt64.ofNat (total + 1) := by
    rw [UInt64.ofNat_add]
    exact congrArg (· + 1) tallied.writes
  have hstatus : before.desk.nextStatus =
      paceAt throttleEvery (UInt64.ofNat (total + 1)) := by
    rw [Hub.Desk.nextStatus_eq, hwrites, ← tallied.paced]
    rfl
  have hcount : ∀ {counter : UInt64} {status : WriteStatus},
      counter = UInt64.ofNat ((pace throttleEvery total).count status) →
      (if before.desk.nextStatus = status then counter + 1 else counter) =
        UInt64.ofNat ((pace throttleEvery (total + 1)).count status) := by
    rintro counter status rfl
    rw [pace_succ, List.count_append, ← hstatus, List.count_singleton, UInt64.ofNat_add]
    by_cases hsame : before.desk.nextStatus = status
    · rw [if_pos hsame, if_pos (by simpa using hsame)]
      rfl
    · rw [if_neg hsame, if_neg (by simpa using hsame)]
      exact (UInt64.add_zero _).symm
  exact ⟨hstatus, hwrites, hcount tallied.accepted, hcount tallied.throttled⟩

/-- What is on file stays so, and the verdicts stay what they are. -/
theorem more {before : Hub} (tallied : IsTallied throttleEvery exchanges before total)
    (after : Hub) (exchange : Exchange) (answer : Receipt)
    (receipts : after.receipts = before.receipts ∨
      after.receipts = before.receipts.push answer)
    (filed : exchange.IsFiled after.receipts) :
    (∀ other ∈ exchanges ++ [exchange], other.IsFiled after.receipts) ∧
      BrokerLoad.verdicts after.statusOf (exchanges ++ [exchange]) =
        pace throttleEvery total ++ (exchange.verdict? after.statusOf).toList := by
  refine ⟨fun other hmem => ?_, ?_⟩
  · rcases List.mem_append.1 hmem with hbefore | hlast
    · have hfiled := tallied.filed other hbefore
      rcases receipts with hsame | hpushed
      · exact hsame ▸ hfiled
      · exact hpushed ▸ hfiled.push answer
    · rw [List.mem_singleton.1 hlast]
      exact filed
  · rw [verdicts_snoc, ← tallied.verdicts]
    congr 1
    exact List.filterMap_congr fun other hmem => (tallied.filed other hmem).verdict?_eq receipts

/-- A hub keeps its count. -/
theorem shows {before after : Hub} {exchange : Exchange}
    (tallied : IsTallied throttleEvery exchanges before total)
    (shows : Occasion.Shows ⟨before, exchange, after⟩)
    (served : Occasion.IsServed ⟨before, exchange, after⟩) :
    ∃ total, IsTallied throttleEvery (exchanges ++ [exchange]) after total := by
  have hpace : after.throttleEvery = throttleEvery := shows.same.2.2.trans tallied.paced
  cases shows with
  | aside silent handles desk =>
    have hreceipts : after.receipts = before.receipts := congrArg Hub.Desk.receipts desk
    obtain ⟨hfiled, hverdicts⟩ := tallied.more after exchange ⟨.failed, ""⟩ (.inl hreceipts)
      (hreceipts ▸ filed_of_silent served silent)
    rw [Exchange.verdict?_eq_none _ silent, Option.toList_none, List.append_nil] at hverdicts
    exact ⟨total, hfiled, hpace, hverdicts,
      (congrArg Hub.Desk.writes desk).trans tallied.writes,
      (congrArg Hub.Desk.accepted desk).trans tallied.accepted,
      (congrArg Hub.Desk.throttled desk).trans tallied.throttled⟩
  | @write _ _ answer handle data status desk =>
    obtain ⟨hnext, hwrites, haccepted, hthrottled⟩ := tallied.afterWrite
    obtain ⟨hfiled, hverdicts⟩ := tallied.more after
      ⟨.broker (.write handle data), .ok answer⟩ answer
      (.inl (congrArg Hub.Desk.receipts desk)) trivial
    refine ⟨total + 1, hfiled, hpace, ?_, (congrArg Hub.Desk.writes desk).trans hwrites,
      (congrArg Hub.Desk.accepted desk).trans haccepted,
      (congrArg Hub.Desk.throttled desk).trans hthrottled⟩
    rw [hverdicts, pace_succ, ← hnext, ← status]
    rfl
  | @submit _ _ answer handle data status desk =>
    obtain ⟨hnext, hwrites, haccepted, hthrottled⟩ := tallied.afterWrite
    have hreceipts : after.receipts = before.receipts.push answer :=
      congrArg Hub.Desk.receipts desk
    have hticket : before.receipts.size < after.receipts.size := by
      rw [hreceipts, Array.size_push]
      exact Nat.lt_succ_self _
    have hstatus : after.statusOf before.receipts.size = answer.status := by
      rw [Hub.statusOf, hreceipts, Array.getElem?_push_size]
      rfl
    obtain ⟨hfiled, hverdicts⟩ := tallied.more after
      ⟨.broker (.submit handle data), .ok (some before.receipts.size)⟩ answer (.inr hreceipts)
      hticket
    refine ⟨total + 1, hfiled, hpace, ?_, (congrArg Hub.Desk.writes desk).trans hwrites,
      (congrArg Hub.Desk.accepted desk).trans haccepted,
      (congrArg Hub.Desk.throttled desk).trans hthrottled⟩
    refine hverdicts.trans ?_
    rw [pace_succ, ← hnext, ← status, ← hstatus]
    rfl

end IsTallied
end Hub
end BrokerLoad
