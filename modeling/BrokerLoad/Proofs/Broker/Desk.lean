import BrokerLoad.Broker.Hub

/-!
# The desk of a hub

What writers see of a hub is its *desk*: whether it is open, what destinations it has, the
handles and receipts it has given out, and how many writes it has admitted, accepted and
throttled.  The queues are behind the desk, and nothing that happens to them or to the
requests parked in them can be seen from there.

So of all the calls on a hub only three kinds show at the desk: a write or a submission, what
is done to a handle, and an administrative call.  The lemmas below say so for each operation.
-/

namespace BrokerLoad
namespace Hub

/-- What writers see of a hub. -/
structure Desk where
  throttleEvery : UInt32
  closed : Bool
  topology : List (String × List (String × Nat))
  writes : UInt64
  /-- How many writes were accepted. -/
  accepted : UInt64
  throttled : UInt64
  /-- How many writes were not admitted. -/
  rejected : UInt64
  receipts : Array Receipt
  handles : Array HandleState

/-- The desk of a hub. -/
def desk (hub : Hub) : Desk where
  throttleEvery := hub.throttleEvery
  closed := hub.closed
  topology := hub.topology
  writes := hub.writes
  accepted := hub.counts.accepted
  throttled := hub.counts.throttled
  rejected := hub.counts.rejected
  receipts := hub.receipts
  handles := hub.handles

/-! ## Behind the desk -/

@[simp] theorem desk_putQueue (hub : Hub) (number : Nat) (queue : Queue Bytes) :
    (hub.putQueue number queue).desk = hub.desk := rfl

@[simp] theorem desk_countDelivery (hub : Hub) : hub.countDelivery.desk = hub.desk := rfl

@[simp] theorem desk_resolve (hub : Hub) (answer : Awaited) (ticket : Ticket) :
    (hub.resolve answer ticket).desk = hub.desk := rfl

@[simp] theorem desk_ticketFor (hub : Hub) (answer : Awaited) :
    (hub.ticketFor answer).2.desk = hub.desk := rfl

@[simp] theorem desk_resolveAll (hub : Hub) (answer : Awaited) (tickets : List Ticket) :
    (hub.resolveAll answer tickets).desk = hub.desk := by
  induction tickets generalizing hub with
  | nil => rfl
  | cons ticket rest ih => exact ih (hub.resolve answer ticket)

@[simp] theorem desk_serveParked (hub : Hub) (number : Nat)
    (served : Option (Ticket × Handover Bytes)) :
    (hub.serveParked number served).desk = hub.desk := by
  cases served <;> rfl

@[simp] theorem desk_pushTo (hub : Hub) (data : Bytes) (number : Nat) :
    (hub.pushTo data number).desk = hub.desk := by
  rw [pushTo]
  split
  · rfl
  · rw [desk_serveParked, desk_putQueue]

theorem desk_pushAll (hub : Hub) (data : Bytes) (numbers : List Nat) :
    (numbers.foldl (fun hub number => hub.pushTo data number) hub).desk = hub.desk := by
  induction numbers generalizing hub with
  | nil => rfl
  | cons number rest ih => exact (ih _).trans (desk_pushTo hub data number)

theorem desk_countSettlement (hub : Hub) (number : Nat) (settlement : Queue.Settlement Bytes) :
    (hub.countSettlement number settlement).desk = hub.desk := by
  cases settlement with
  | redelivered served => cases served <;> rfl
  | done => rfl
  | deadLettered => rfl

theorem desk_dropReads (hub : Hub) (number : Nat) (reader : UInt64) :
    (hub.dropReads number reader).desk = hub.desk := by
  rw [dropReads]
  split
  · rfl
  · rw [desk_resolveAll, desk_putQueue]

theorem desk_read (hub : Hub) (handle : Handle) : (hub.read handle).2.desk = hub.desk := by
  rw [read]
  split
  · rfl
  · split <;> rfl

theorem desk_request (hub : Hub) (handle : Handle) : (hub.request handle).2.desk = hub.desk := by
  rw [request]
  split
  · rfl
  · split <;> rfl

theorem desk_ack (hub : Hub) (delivery : Delivery) : (hub.ack delivery).2.desk = hub.desk := by
  rw [ack]
  split
  · rfl
  · exact desk_countSettlement _ _ _

theorem desk_nack (hub : Hub) (delivery : Delivery) : (hub.nack delivery).2.desk = hub.desk := by
  rw [nack]
  split
  · rfl
  · exact desk_countSettlement _ _ _

/-! ## Handles -/

theorem desk_putHandle (hub : Hub) (handle : Handle) (state : HandleState) :
    (hub.putHandle handle state).desk =
      { hub.desk with handles := hub.desk.handles.setIfInBounds handle state } := rfl

theorem desk_create {hub : Hub} (isOpen : hub.closed = false) (role : Role) :
    (hub.create role).1 = some hub.handles.size ∧ ∃ state,
      (hub.create role).2.desk = { hub.desk with handles := hub.handles.push state } ∧
      ∀ path, role = .publisher path → state = .publisher path false "" := by
  have hnot : ¬ hub.closed = true := by simp [isOpen]
  cases role with
  | publisher path =>
    rw [create.eq_def, if_neg hnot]
    exact ⟨rfl, _, rfl, fun other heq => by cases heq; rfl⟩
  | consumer path group prefetch =>
    rw [create.eq_def, if_neg hnot]
    exact ⟨rfl, _, rfl, nofun⟩

/-- An operation on a handle changes that handle and nothing else at the desk. -/
structure ChangesHandle (handle : Handle) (before after : Hub) : Prop where
  desk : ∃ handles : Array HandleState, after.desk = { before.desk with handles := handles } ∧
    handles.size = before.handles.size ∧
    ∀ other, other ≠ handle → handles[other]? = before.handles[other]?
  /-- A publisher stays one of the same destination. -/
  publisher : ∀ path isOpen error, before.handles[handle]? = some (.publisher path isOpen error) →
    ∃ isOpen error, after.handles[handle]? = some (.publisher path isOpen error)
  /-- A handle stays one. -/
  held : (before.handles[handle]?).isSome = true → (after.handles[handle]?).isSome = true

namespace ChangesHandle

theorem refl (hub : Hub) (handle : Handle) : ChangesHandle handle hub hub where
  desk := ⟨hub.handles, rfl, rfl, fun _ _ => rfl⟩
  publisher _ isOpen error h := ⟨isOpen, error, h⟩
  held := id

theorem of_put {hub after : Hub} {handle : Handle} (state : HandleState)
    (desk : after.desk = (hub.putHandle handle state).desk)
    (publisher : ∀ path isOpen error, hub.handles[handle]? = some (.publisher path isOpen error) →
      ∃ isOpen error, state = .publisher path isOpen error) : ChangesHandle handle hub after := by
  have hhandles : after.handles = hub.handles.setIfInBounds handle state :=
    congrArg Desk.handles desk
  refine ⟨⟨_, desk, Array.size_setIfInBounds, fun other hother => ?_⟩,
    fun path isOpen error hfound => ?_, fun hheld => ?_⟩
  · rw [putHandle, Array.getElem?_setIfInBounds, if_neg (Ne.symm hother)]
  · obtain ⟨isOpen', error', rfl⟩ := publisher path isOpen error hfound
    have hlt := (Array.getElem?_eq_some_iff.1 hfound).1
    exact ⟨isOpen', error', by rw [hhandles, Array.getElem?_setIfInBounds, if_pos rfl, if_pos hlt]⟩
  · rw [hhandles]
    simpa using hheld

end ChangesHandle

theorem changesHandle_open (hub : Hub) (handle : Handle) :
    ChangesHandle handle hub (hub.openHandle handle).2 := by
  rw [openHandle]
  split
  next path isOpen error hfound =>
    split <;>
    · refine .of_put _ rfl fun path' isOpen' error' hfound' => ?_
      cases hfound.symm.trans hfound'
      exact ⟨_, _, rfl⟩
  next path group reader number error hfound =>
    split <;> exact .of_put _ rfl fun path' isOpen' error' hfound' => by
      cases hfound.symm.trans hfound'
  next => exact .refl hub handle

/-- A publisher that could be opened is open. -/
theorem handle_of_open {hub : Hub} {handle : Handle} {path error : String} {isOpen : Bool}
    (hfound : hub.handles[handle]? = some (.publisher path isOpen error))
    (hopened : (hub.openHandle handle).1 = true) :
    (hub.openHandle handle).2.handles[handle]? = some (.publisher path true error) := by
  have hlt := (Array.getElem?_eq_some_iff.1 hfound).1
  have hopen : hub.openHandle handle = if hub.hasDestination path then
      (true, hub.putHandle handle (.publisher path true error))
    else (false, hub.putHandle handle (.publisher path isOpen (noDestination path))) := by
    rw [openHandle, hfound]
  rw [hopen] at hopened ⊢
  split at hopened
  next hdestination =>
    rw [if_pos hdestination, putHandle, Array.getElem?_setIfInBounds, if_pos rfl, if_pos hlt]
  next => cases hopened

theorem changesHandle_close (hub : Hub) (handle : Handle) :
    ChangesHandle handle hub (hub.closeHandle handle) := by
  rw [closeHandle]
  split
  next path isOpen error hfound =>
    refine .of_put _ rfl fun path' isOpen' error' hfound' => ?_
    cases hfound.symm.trans hfound'
    exact ⟨_, _, rfl⟩
  next path group reader number error hfound =>
    refine .of_put (.consumer path group reader none error) ?_
      fun path' isOpen' error' hfound' => ?_
    · rw [desk_putHandle, desk_dropReads, desk_putHandle]
    · cases hfound.symm.trans hfound'
  next => exact .refl hub handle

/-- A handle that is given back is the only thing that changes. -/
theorem desk_release (hub : Hub) (handle : Handle) : ∃ handles : Array HandleState,
    (hub.release handle).desk = { hub.desk with handles := handles } ∧
    handles.size = hub.handles.size ∧
    ∀ other, other ≠ handle → handles[other]? = hub.handles[other]? := by
  obtain ⟨handles, hdesk, hsize, hother⟩ := (changesHandle_close hub handle).desk
  refine ⟨handles.setIfInBounds handle .released, ?_, ?_, fun other hne => ?_⟩
  · rw [release, desk_putHandle, hdesk]
  · rw [Array.size_setIfInBounds, hsize]
  · rw [Array.getElem?_setIfInBounds, if_neg (Ne.symm hne), hother other hne]

/-! ## Writing -/

theorem desk_countWrite_ok (hub : Hub) :
    (hub.countWrite .ok).desk = { hub.desk with accepted := hub.desk.accepted + 1 } := rfl

/-- The status of the next write that is admitted. -/
def Desk.nextStatus (desk : Desk) : WriteStatus :=
  if desk.throttleEvery ≠ 0 ∧ (desk.writes + 1) % desk.throttleEvery.toUInt64 = 0 then .throttled
  else .ok

/-- The desk after a write that was admitted. -/
def Desk.afterWrite (desk : Desk) : Desk :=
  { desk with
    writes := desk.writes + 1
    accepted := if desk.nextStatus = .ok then desk.accepted + 1 else desk.accepted
    throttled := if desk.nextStatus = .throttled then desk.throttled + 1 else desk.throttled }

/-- A write through an open publisher, to a destination of an open hub. -/
structure Admits (hub : Hub) (handle : Handle) : Prop where
  isOpen : hub.closed = false
  publisher : ∃ path error, hub.handles[handle]? = some (.publisher path true error) ∧
    (hub.groups? path).isSome = true

/-- Such a write is admitted. -/
theorem Admits.write {hub : Hub} {handle : Handle} (admits : hub.Admits handle) (data : Bytes) :
    (hub.write handle data).1.status = hub.desk.nextStatus ∧
      (hub.write handle data).2.desk = hub.desk.afterWrite := by
  obtain ⟨path, error, hfound, hgroups⟩ := admits.publisher
  obtain ⟨groups, hgroups⟩ := Option.isSome_iff_exists.1 hgroups
  have hwrite : hub.write handle data = hub.publish path data := by
    rw [Hub.write, hfound]
  have hpushed := desk_pushAll { hub with writes := hub.writes + 1 } data (groups.map Prod.snd)
  have hopen : ¬ hub.closed = true := by simp [admits.isOpen]
  rw [hwrite, publish, if_neg hopen, hgroups]
  dsimp only
  by_cases hthrottles : hub.throttleEvery ≠ 0 ∧
      (hub.writes + 1) % hub.throttleEvery.toUInt64 = 0
  · have hstatus : hub.desk.nextStatus = .throttled := if_pos hthrottles
    rw [if_pos (by simpa [throttles] using hthrottles), Desk.afterWrite, hstatus]
    exact ⟨rfl, rfl⟩
  · have hstatus : hub.desk.nextStatus = .ok := if_neg hthrottles
    rw [if_neg (by simpa [throttles] using hthrottles), Desk.afterWrite, hstatus]
    refine ⟨rfl, ?_⟩
    rw [desk_countWrite_ok, hpushed]
    rfl

/-- A publisher of a destination that there is can be created and opened, and changes nothing
else. -/
theorem create_openHandle {hub : Hub} {path : String} (isOpen : hub.closed = false)
    (destined : (hub.groups? path).isSome = true) :
    (hub.create (.publisher path)).1 = some hub.handles.size ∧
      (hub.create (.publisher path)).2.openHandle hub.handles.size =
        (true, { hub with handles := hub.handles.push (.publisher path true "") }) := by
  have hnot : ¬ hub.closed = true := by simp [isOpen]
  have hcreate : hub.create (.publisher path) =
      (some hub.handles.size,
        { hub with handles := hub.handles.push (.publisher path false "") }) := by
    rw [create, if_neg hnot]
  have hdestination : hasDestination
      { hub with handles := hub.handles.push (.publisher path false "") } path = true := by
    rw [groups?] at destined
    simp [hasDestination, groups?, isOpen, destined]
  have hput : (hub.handles.push (.publisher path false "")).setIfInBounds hub.handles.size
      (.publisher path true "") = hub.handles.push (.publisher path true "") := by
    rw [← Array.toList_inj]
    simp
  have hfound : (hub.handles.push (.publisher path false ""))[hub.handles.size]? =
      some (.publisher path false "") := by simp
  refine ⟨congrArg Prod.fst hcreate, ?_⟩
  rw [hcreate, openHandle]
  dsimp only
  rw [hfound]
  dsimp only
  rw [if_pos hdestination, putHandle, hput]

/-- What is written through it is admitted. -/
theorem Admits.of_push {hub : Hub} {path : String} (isOpen : hub.closed = false)
    (destined : (hub.groups? path).isSome = true) :
    Admits { hub with handles := hub.handles.push (.publisher path true "") } hub.handles.size :=
  ⟨isOpen, path, "", by simp, destined⟩

/-- After a write through it a publisher may write again. -/
theorem Admits.again {hub : Hub} {handle : Handle} (admits : hub.Admits handle) (data : Bytes) :
    (hub.write handle data).2.Admits handle := by
  obtain ⟨-, hdesk⟩ := admits.write data
  obtain ⟨path, error, hfound, hgroups⟩ := admits.publisher
  refine ⟨(congrArg Desk.closed hdesk).trans admits.isOpen, path, error, ?_, ?_⟩
  · rw [show (hub.write handle data).2.handles = hub.handles from congrArg Desk.handles hdesk]
    exact hfound
  · rw [groups?, show (hub.write handle data).2.topology = hub.topology from
      congrArg Desk.topology hdesk]
    exact hgroups

/-- What such a write is answered. -/
theorem Admits.receipt_eq {hub : Hub} {handle : Handle} (admits : hub.Admits handle)
    (data : Bytes) : (hub.write handle data).1 =
      if hub.desk.nextStatus = .throttled then ⟨.throttled, "throttled"⟩ else ⟨.ok, ""⟩ := by
  obtain ⟨path, error, hfound, hgroups⟩ := admits.publisher
  obtain ⟨groups, hgroups⟩ := Option.isSome_iff_exists.1 hgroups
  have hopen : ¬ hub.closed = true := by simp [admits.isOpen]
  rw [Hub.write, hfound]
  dsimp only
  rw [publish, if_neg hopen, hgroups]
  dsimp only
  by_cases hthrottles : hub.throttleEvery ≠ 0 ∧
      (hub.writes + 1) % hub.throttleEvery.toUInt64 = 0
  · have hstatus : hub.desk.nextStatus = .throttled := if_pos hthrottles
    rw [if_pos (by simpa [throttles] using hthrottles), if_pos hstatus]
  · have hstatus : hub.desk.nextStatus = .ok := if_neg hthrottles
    rw [if_neg (by simpa [throttles] using hthrottles), hstatus]
    rfl

end Hub
end BrokerLoad
