import BrokerLoad.Proofs.Broker.Acts
import BrokerLoad.Proofs.Broker.Pace

/-!
# What becomes of a write

A write through an open publisher is *admitted* if the hub is open and the destination exists.
Admitted writes are counted, whatever destination they go to and whoever makes them, and it depends
on the number alone whether one is refused with a request to slow down.  One that is not refused
puts a copy into the queue of each group that the destination has at that moment.

`Hub.Publishes` says so of a hub that has admitted so many writes, and `Hub.publishes_afterAll` that
every hub is one, whatever has been done with it.  All that is to be shown for this is that nothing
else moves the count (`Hub.Advances`).
-/

namespace BrokerLoad
namespace Hub

/-! ## Admitted writes -/

/-- The verdict on a write, if a call is one. -/
def verdict? (hub : Hub) : Call → Option WriteStatus
  | .write handle data => some (hub.write handle data).1.status
  | .submit handle data => some (hub.write handle data).1.status
  | _ => none

/-- How many writes a call has admitted, by its verdict: one, unless it failed. -/
def admissions (hub : Hub) (call : Call) : Nat :=
  match hub.verdict? call with
  | some status => if status = .failed then 0 else 1
  | none => 0

/-- How many writes are admitted by several operations. -/
def admitted (hub : Hub) : List Operation → Nat
  | [] => 0
  | .serve call :: operations => hub.admissions call + (hub.serve call).client.admitted operations
  | .disown :: operations => hub.disown.admitted operations

/-! ## The count of writes -/

/-- A step in which so many writes are admitted.  The owner stays, and a hub that is closed stays
closed. -/
structure Advances (before after : Hub) (writes : Nat) : Prop where
  writes : after.writes = before.writes + UInt64.ofNat writes
  throttleEvery : after.throttleEvery = before.throttleEvery
  owned : after.owned = before.owned
  shut : before.closed = true → after.closed = true

namespace Advances

variable {before between after : Hub} {first second : Nat}

theorem of_eq (hwrites : after.writes = before.writes)
    (hthrottleEvery : after.throttleEvery = before.throttleEvery)
    (howned : after.owned = before.owned) (hclosed : after.closed = before.closed) :
    before.Advances after 0 where
  writes := hwrites.trans (UInt64.add_zero _).symm
  throttleEvery := hthrottleEvery
  owned := howned
  shut h := hclosed.trans h

theorem refl (hub : Hub) : hub.Advances hub 0 := of_eq rfl rfl rfl rfl

theorem trans (one : before.Advances between first) (other : between.Advances after second) :
    before.Advances after (first + second) where
  writes := by rw [other.writes, one.writes, UInt64.ofNat_add, UInt64.add_assoc]
  throttleEvery := other.throttleEvery.trans one.throttleEvery
  owned := other.owned.trans one.owned
  shut := other.shut ∘ one.shut

/-- Nothing is admitted in a second step. -/
theorem trans_idle (one : before.Advances between first) (other : between.Advances after 0) :
    before.Advances after first :=
  one.trans other

/-- Nor is anything in a first one. -/
theorem after_idle (other : between.Advances after second)
    (hwrites : between.writes = before.writes)
    (hthrottleEvery : between.throttleEvery = before.throttleEvery)
    (howned : between.owned = before.owned) (hclosed : between.closed = before.closed) :
    before.Advances after second :=
  Nat.zero_add second ▸ (of_eq hwrites hthrottleEvery howned hclosed).trans other

/-! ### Behind the desk -/

theorem resolveAll (answer : Awaited) (hub : Hub) (tickets : List Ticket) :
    hub.Advances (hub.resolveAll answer tickets) 0 := by
  induction tickets generalizing hub with
  | nil => exact refl hub
  | cons ticket rest ih => exact (ih (hub.resolve answer ticket)).after_idle rfl rfl rfl rfl

theorem serveParked (hub : Hub) (number : Nat) (served : Option (Ticket × Handover Bytes)) :
    hub.Advances (hub.serveParked number served) 0 := by
  cases served <;> exact of_eq rfl rfl rfl rfl

theorem pushAll (hub : Hub) (data : Bytes) (numbers : List Nat) :
    hub.Advances (numbers.foldl (fun hub number => hub.pushTo data number) hub) 0 := by
  induction numbers generalizing hub with
  | nil => exact refl hub
  | cons number rest ih =>
    refine trans_idle ?_ (ih (hub.pushTo data number))
    rw [pushTo]
    split
    · exact refl hub
    · exact (serveParked _ _ _).after_idle rfl rfl rfl rfl

theorem shutQueues (hub : Hub) (numbers : List Nat) : hub.Advances (hub.shutQueues numbers) 0 := by
  induction numbers generalizing hub with
  | nil => exact refl hub
  | cons number rest ih =>
    refine trans_idle ?_ (ih (hub.shutQueue number))
    rw [shutQueue]
    split
    · exact refl hub
    · exact (resolveAll _ _ _).after_idle rfl rfl rfl rfl

theorem dropReads (hub : Hub) (number : Nat) (reader : UInt64) :
    hub.Advances (hub.dropReads number reader) 0 := by
  rw [Hub.dropReads]
  split
  · exact refl hub
  · exact (resolveAll _ _ _).after_idle rfl rfl rfl rfl

theorem countSettlement (hub : Hub) (number : Nat) (settlement : Queue.Settlement Bytes) :
    hub.Advances (hub.countSettlement number settlement) 0 := by
  cases settlement with
  | redelivered served => exact (serveParked _ _ _).after_idle rfl rfl rfl rfl
  | done => exact refl hub
  | deadLettered => exact of_eq rfl rfl rfl rfl

theorem countWrite (hub : Hub) (status : WriteStatus) : hub.Advances (hub.countWrite status) 0 := by
  cases status <;> exact of_eq rfl rfl rfl rfl

/-! ### Calls -/

/-- A write counts if it does not fail. -/
theorem publish (hub : Hub) (path : String) (data : Bytes) : hub.Advances (hub.publish path data).2
    (if (hub.publish path data).1.status = .failed then 0 else 1) := by
  have hcounted : hub.Advances { hub with writes := hub.writes + 1 } 1 := ⟨rfl, rfl, rfl, id⟩
  rw [Hub.publish]
  split
  · exact countWrite hub .failed
  · split
    · exact countWrite hub .failed
    · dsimp only
      split
      · exact hcounted.trans_idle (countWrite _ .throttled)
      · exact hcounted.trans_idle ((pushAll _ data _).trans_idle (countWrite _ .ok))

theorem write (hub : Hub) (handle : Handle) (data : Bytes) : hub.Advances (hub.write handle data).2
    (if (hub.write handle data).1.status = .failed then 0 else 1) := by
  rw [Hub.write]
  split
  · exact publish hub _ data
  · exact refl hub

theorem closeHandle (hub : Hub) (handle : Handle) : hub.Advances (hub.closeHandle handle) 0 := by
  rw [Hub.closeHandle]
  split
  · exact of_eq rfl rfl rfl rfl
  · exact (dropReads hub _ _).trans_idle (of_eq rfl rfl rfl rfl)
  · exact refl hub

theorem create (hub : Hub) (role : Role) : hub.Advances (hub.create role).2 0 := by
  unfold Hub.create
  split
  · exact refl hub
  · split <;> exact of_eq rfl rfl rfl rfl

theorem openHandle (hub : Hub) (handle : Handle) : hub.Advances (hub.openHandle handle).2 0 := by
  rw [Hub.openHandle]
  split
  · split <;> exact of_eq rfl rfl rfl rfl
  · split <;> exact of_eq rfl rfl rfl rfl
  · exact refl hub

theorem request (hub : Hub) (handle : Handle) : hub.Advances (hub.request handle).2 0 := by
  rw [Hub.request]
  split
  · exact of_eq rfl rfl rfl rfl
  · split <;> exact of_eq rfl rfl rfl rfl

theorem read (hub : Hub) (handle : Handle) : hub.Advances (hub.read handle).2 0 := by
  rw [Hub.read]
  split
  · exact refl hub
  · split <;> exact of_eq rfl rfl rfl rfl

theorem ack (hub : Hub) (delivery : Delivery) : hub.Advances (hub.ack delivery).2 0 := by
  rw [Hub.ack]
  split
  · exact refl hub
  · exact (countSettlement _ _ _).after_idle rfl rfl rfl rfl

theorem nack (hub : Hub) (delivery : Delivery) : hub.Advances (hub.nack delivery).2 0 := by
  rw [Hub.nack]
  split
  · exact refl hub
  · exact (countSettlement _ _ _).after_idle rfl rfl rfl rfl

/-! ### Administration -/

theorem createDestination (hub : Hub) (destination : DestinationSpec) :
    hub.Advances (hub.createDestination destination).2 0 := by
  rw [Hub.createDestination]
  split
  · exact refl hub
  · split
    · exact refl hub
    · split <;> exact of_eq rfl rfl rfl rfl

theorem createGroup (hub : Hub) (group : GroupSpec) :
    hub.Advances (hub.createGroup group).2 0 := by
  rw [Hub.createGroup]
  split
  · exact refl hub
  · split
    · exact refl hub
    · split
      · exact refl hub
      · dsimp only
        split <;> exact of_eq rfl rfl rfl rfl

theorem deleteGroup (hub : Hub) (path name : String) :
    hub.Advances (hub.deleteGroup path name).2 0 := by
  rw [Hub.deleteGroup]
  split
  · exact refl hub
  · split
    · exact refl hub
    · exact (shutQueues _ [_]).after_idle rfl rfl rfl rfl

theorem deleteDestination (hub : Hub) (path : String) :
    hub.Advances (hub.deleteDestination path).2 0 := by
  rw [Hub.deleteDestination]
  split
  · exact refl hub
  · split
    · exact refl hub
    · exact (shutQueues _ _).after_idle rfl rfl rfl rfl

theorem close (hub : Hub) : hub.Advances hub.close 0 := by
  have hshut : hub.Advances { hub with closed := true } 0 :=
    ⟨(UInt64.add_zero _).symm, rfl, rfl, fun _ => rfl⟩
  rw [Hub.close]
  split
  · exact refl hub
  · exact hshut.trans_idle (shutQueues _ _)

/-- A call counts if it is a write that does not fail. -/
theorem serve (hub : Hub) (call : Call) :
    hub.Advances (hub.serve call).client (hub.admissions call) := by
  cases call with
  | createDestination destination => exact createDestination hub destination
  | createGroup group => exact createGroup hub group
  | deleteGroup path name => exact deleteGroup hub path name
  | deleteDestination path => exact deleteDestination hub path
  | shutDown => exact close hub
  | create role => exact create hub role
  | openHandle handle => exact openHandle hub handle
  | closeHandle handle => exact closeHandle hub handle
  | release handle => exact (closeHandle hub handle).trans_idle (of_eq rfl rfl rfl rfl)
  | submit handle data => exact (write hub handle data).trans_idle (of_eq rfl rfl rfl rfl)
  | write handle data => exact write hub handle data
  | request handle => exact request hub handle
  | read handle => exact read hub handle
  | ack delivery => exact ack hub delivery
  | nack delivery => exact nack hub delivery
  | lastError | receiptReady | takeReceipt | deliveryReady | takeDelivery => exact refl hub

end Advances

/-- The count of writes is that of the writes that were admitted, whatever has been done. -/
theorem writes_afterAll (hub : Hub) (operations : List Operation) :
    (hub.afterAll operations).writes = hub.writes + UInt64.ofNat (hub.admitted operations) ∧
      (hub.afterAll operations).throttleEvery = hub.throttleEvery := by
  induction operations generalizing hub with
  | nil => exact ⟨(UInt64.add_zero _).symm, rfl⟩
  | cons operation rest ih =>
    obtain ⟨hwrites, hevery⟩ := ih (hub.operate operation)
    cases operation with
    | serve call =>
      have hserved := Advances.serve hub call
      refine ⟨hwrites.trans ?_, hevery.trans hserved.throttleEvery⟩
      rw [admitted, operate, hserved.writes, UInt64.ofNat_add, UInt64.add_assoc]
    | disown =>
      have hclosed := Advances.close hub
      refine ⟨hwrites.trans ?_, hevery.trans hclosed.throttleEvery⟩
      show hub.close.writes + _ = _
      rw [admitted, hclosed.writes]
      exact congrArg (· + _) (UInt64.add_zero hub.writes)

/-! ## Publishing -/

/-- What a hub that has admitted so many writes does with the next one. -/
structure Publishes (hub : Hub) (throttleEvery : UInt32) (admitted : Nat) : Prop where
  /-- A write through an open publisher is admitted if and only if the hub is open and the
  destination exists. -/
  admits : ∀ {handle : Handle} {path error : String} (data : Bytes),
    hub.handles[handle]? = some (.publisher path true error) →
      ((hub.write handle data).1.status ≠ .failed ↔
        hub.closed = false ∧ (hub.groups? path).isSome = true)
  /-- A write through any other handle is not, and changes nothing. -/
  refuses : ∀ {handle : Handle} (data : Bytes), ¬ hub.IsOpenPublisher handle →
    (hub.write handle data).1.status = .failed ∧ (hub.write handle data).2 = hub
  /-- It depends on its number what becomes of a write that is admitted. -/
  paces : ∀ {handle : Handle} {data : Bytes}, (hub.write handle data).1.status ≠ .failed →
    admitted + 1 < 2 ^ 64 → (hub.write handle data).1.status =
      if throttleEvery ≠ 0 ∧ throttleEvery.toNat ∣ admitted + 1 then .throttled else .ok
  /-- One copy of a write that is accepted is put into the queue of each group that the destination
  has, which is open, and no other queue changes. -/
  copies : ∀ {handle : Handle} {data : Bytes}, (hub.write handle data).1.status = .ok →
    ∃ path error groups, hub.handles[handle]? = some (.publisher path true error) ∧
      hub.groups? path = some groups ∧
      (∀ group ∈ groups, ∃ queue : Queue Bytes, hub.queues[group.2]? = some queue ∧
        queue.closed = false ∧
        (hub.write handle data).2.queues[group.2]? = some (queue.push { data }).2) ∧
      ∀ number ∉ groups.map Prod.snd,
        (hub.write handle data).2.queues[number]? = hub.queues[number]?
  /-- No queue changes if the answer is any other. -/
  spares : ∀ {handle : Handle} {data : Bytes}, (hub.write handle data).1.status ≠ .ok →
    (hub.write handle data).2.queues = hub.queues
  /-- A submission is a write, and its receipt is at its ticket. -/
  submits : ∀ (handle : Handle) (data : Bytes),
    (hub.submit handle data).2.queues = (hub.write handle data).2.queues ∧
      (hub.submit handle data).2.receipt (hub.submit handle data).1 =
        .ok (hub.write handle data).1

/-- Which writes are asked to slow down, by their numbers. -/
theorem paceAt_ofNat (throttleEvery : UInt32) {number : Nat} (few : number < 2 ^ 64) :
    paceAt throttleEvery (UInt64.ofNat number) =
      if throttleEvery ≠ 0 ∧ throttleEvery.toNat ∣ number then .throttled else .ok := by
  by_cases hzero : throttleEvery = 0
  · rw [if_neg fun h => h.1 hzero, paceAt, if_neg fun h => h.1 hzero]
  · have hmultiple := paceAt_eq_throttled_iff hzero few
    split
    next hrefused => exact hmultiple.2 hrefused.2
    next hnot =>
      refine (paceAt_cases _ _).resolve_right fun hthrottled => hnot ⟨hzero, ?_⟩
      exact hmultiple.1 hthrottled

section Publish

variable {hub : Hub} {path : String}

/-- A write to a destination fails or is admitted. -/
theorem status_publish (hub : Hub) (path : String) (data : Bytes) :
    (hub.publish path data).1.status =
      if hub.closed = false ∧ (hub.groups? path).isSome = true then
        paceAt hub.throttleEvery (hub.writes + 1)
      else .failed := by
  rw [publish]
  by_cases hclosed : hub.closed = true
  · rw [if_pos hclosed, if_neg fun h => Bool.false_ne_true (h.1.symm.trans hclosed)]
  · have hopen : hub.closed = false := by simpa using hclosed
    rw [if_neg hclosed]
    cases hgroups : hub.groups? path with
    | none => rw [if_neg fun h => Bool.false_ne_true h.2]
    | some groups =>
      rw [if_pos ⟨hopen, rfl⟩, paceAt]
      dsimp only
      by_cases hthrottles : hub.throttleEvery ≠ 0 ∧
          (hub.writes + 1) % hub.throttleEvery.toUInt64 = 0
      · rw [if_pos (by simpa [throttles] using hthrottles), if_pos hthrottles]
      · rw [if_neg (by simpa [throttles] using hthrottles), if_neg hthrottles]

/-- What is not accepted is not put into any queue. -/
theorem queues_publish_of_ne {data : Bytes} (hstatus : (hub.publish path data).1.status ≠ .ok) :
    (hub.publish path data).2.queues = hub.queues := by
  rw [publish] at hstatus ⊢
  split at hstatus
  next hclosed => rw [if_pos hclosed, queues_countWrite]
  next hopen =>
    rw [if_neg hopen]
    cases hgroups : hub.groups? path with
    | none => exact queues_countWrite hub .failed
    | some groups =>
      rw [hgroups] at hstatus
      dsimp only at hstatus ⊢
      split at hstatus
      next hthrottles => rw [if_pos hthrottles, queues_countWrite]
      next => exact absurd rfl hstatus

/-- The queue of a group of a destination, in a hub that is open, gets one copy. -/
theorem IsNamed.queues_publish_of_mem (named : hub.IsNamed) {data : Bytes}
    (hstatus : (hub.publish path data).1.status = .ok) {groups : List (String × Nat)}
    (hgroups : hub.groups? path = some groups) (hopen : hub.closed = false)
    {group : String × Nat} (hgroup : group ∈ groups) : ∃ queue : Queue Bytes,
      hub.queues[group.2]? = some queue ∧ queue.closed = false ∧
        (hub.publish path data).2.queues[group.2]? = some (queue.push { data }).2 := by
  have hentry := mem_topology_of_groups? hgroups
  have hsublist : (groups.map Prod.snd).Sublist hub.reachable :=
    List.sublist_flatten_of_mem (List.mem_map.2 ⟨_, hentry, rfl⟩)
  have hmem := List.mem_map_of_mem (f := Prod.snd) hgroup
  obtain ⟨queue, hqueue, hisOpen⟩ := named.isOpen hopen group.2 (hsublist.subset hmem)
  have honce : (groups.map Prod.snd).count group.2 = 1 :=
    List.count_eq_one_of_mem (named.apart.sublist hsublist) hmem
  refine ⟨queue, hqueue, hisOpen, ?_⟩
  rw [queues_publish, if_pos hstatus, hgroups, Option.getD_some, honce, hqueue, Option.map_some]
  rfl

/-- No other queue gets any. -/
theorem queues_publish_of_notMem {data : Bytes} {groups : List (String × Nat)}
    (hgroups : hub.groups? path = some groups) {number : Nat}
    (hnot : number ∉ groups.map Prod.snd) :
    (hub.publish path data).2.queues[number]? = hub.queues[number]? := by
  have hcount : ((if (hub.publish path data).1.status = .ok then
      ((hub.groups? path).getD []).map Prod.snd else []).count number) = 0 := by
    rw [hgroups, Option.getD_some, List.count_eq_zero]
    split
    · exact hnot
    · exact List.not_mem_nil
  rw [queues_publish, hcount]
  exact (getElem?_map_performAll_nil hub.queues number).symm

end Publish

/-- A hub that has counted its writes publishes. -/
theorem IsNamed.publishes {hub : Hub} (named : hub.IsNamed) {throttleEvery : UInt32}
    {admitted : Nat} (hwrites : hub.writes = UInt64.ofNat admitted)
    (hevery : hub.throttleEvery = throttleEvery) : hub.Publishes throttleEvery admitted := by
  have hpublish : ∀ {handle : Handle} {path error : String} (data : Bytes),
      hub.handles[handle]? = some (.publisher path true error) →
        hub.write handle data = hub.publish path data := by
    intro handle path error data hhandle
    rw [write, hhandle]
  have hnext : hub.writes + 1 = UInt64.ofNat (admitted + 1) := by
    rw [hwrites, UInt64.ofNat_add admitted 1]
    rfl
  constructor
  · intro handle path error data hhandle
    rw [hpublish data hhandle, status_publish]
    split
    next hboth =>
      refine iff_of_true ?_ hboth
      rcases paceAt_cases hub.throttleEvery (hub.writes + 1) with hok | hthrottled
      · simp [hok]
      · simp [hthrottled]
    next hnot => exact iff_of_false (fun h => h rfl) hnot
  · intro handle data hnot
    rcases hub.write_cases handle data with ⟨path, hhandle, -⟩ | ⟨-, hstatus, hsame⟩
    · exact absurd ⟨path, hhandle⟩ hnot
    · exact ⟨hstatus, hsame⟩
  · intro handle data hstatus few
    rcases hub.write_cases handle data with ⟨path, -, hwrite⟩ | ⟨-, hfailed, -⟩
    · rw [hwrite, status_publish] at hstatus ⊢
      split at hstatus
      next hboth =>
        rw [if_pos hboth, hnext, hevery]
        exact paceAt_ofNat throttleEvery few
      next => exact absurd rfl hstatus
    · exact absurd hfailed hstatus
  · intro handle data hstatus
    rcases hub.write_cases handle data with ⟨path, ⟨error, hhandle⟩, hwrite⟩ | ⟨-, hfailed, -⟩
    · rw [hwrite] at hstatus ⊢
      have hboth : hub.closed = false ∧ (hub.groups? path).isSome = true := by
        rw [status_publish] at hstatus
        split at hstatus
        · assumption
        · cases hstatus
      obtain ⟨groups, hgroups⟩ := Option.isSome_iff_exists.1 hboth.2
      exact ⟨path, error, groups, hhandle, hgroups,
        fun group hgroup => named.queues_publish_of_mem hstatus hgroups hboth.1 hgroup,
        fun number hnumber => queues_publish_of_notMem hgroups hnumber⟩
    · rw [hfailed] at hstatus
      cases hstatus
  · intro handle data hstatus
    rcases hub.write_cases handle data with ⟨path, -, hwrite⟩ | ⟨-, -, hsame⟩
    · rw [hwrite] at hstatus ⊢
      exact queues_publish_of_ne hstatus
    · rw [hsame]
  · intro handle data
    refine ⟨rfl, ?_⟩
    rw [receipt, submit]
    simp

/-- Whatever has been done with a hub, it publishes, and goes by the number of the writes that it
has admitted. -/
theorem publishes_afterAll (throttleEvery redeliverEvery : UInt32) (operations : List Operation) :
    (afterAll { throttleEvery, redeliverEvery } operations).Publishes throttleEvery
      (admitted { throttleEvery, redeliverEvery } operations) := by
  obtain ⟨hwrites, hevery⟩ := writes_afterAll { throttleEvery, redeliverEvery } operations
  have haccounts := accounts_afterAll (.fresh throttleEvery redeliverEvery) operations
  exact haccounts.named.publishes (hwrites.trans (UInt64.zero_add _)) hevery

/-- Writes to two destinations are counted together, and a write to a destination that is not there
any more is not counted. -/
example : admitted {} (([.createDestination { path := "orders" },
    .createDestination { path := "bills" }, .create (.publisher "orders"), .openHandle 0,
    .create (.publisher "bills"), .openHandle 1, .write 0 [7], .write 1 [8],
    .deleteDestination "bills", .write 1 [9]] : List Call).map .serve) = 2 := by
  decide +kernel

end Hub
end BrokerLoad
