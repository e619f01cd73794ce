import BrokerLoad.Proofs.Broker.Desk
import BrokerLoad.Proofs.Crew.Courses
import BrokerLoad.Proofs.Producer.Verdicts

/-!
# The writers of a crew

While a crew works on an open hub that has all the destinations of its publishers, every
write that one of them makes is admitted.  That is because nobody writes but through a
publisher of its own: every worker has a handle to itself, that of a publisher is one of its
own destination, and it is open while the publisher is in use (`Crew.IsManned`).

So an exchange with the hub is nothing to what the hub counts of its writes, or it is a write
that is admitted (`Occasion.Shows`).
-/

namespace BrokerLoad

/-- Whether a query is a write, with or without waiting for the receipt. -/
def Query.isWriting : Query → Bool
  | .broker (.submit _ _) => true
  | .broker (.write _ _) => true
  | _ => false

theorem Exchange.isSending_of_isWriting {exchange : Exchange}
    (writes : exchange.1.isWriting = true) : exchange.isSending = true := by
  obtain ⟨query, reply⟩ := exchange
  cases query with
  | broker call => cases call <;> first | rfl | cases writes
  | _ => cases writes

/-- A verdict is passed on what is written. -/
theorem Exchange.verdict?_eq_none {exchange : Exchange} (statusOf : Ticket → WriteStatus)
    (silent : exchange.1.isWriting = false) : exchange.verdict? statusOf = none := by
  obtain ⟨query, reply⟩ := exchange
  cases query with
  | broker call => cases call <;> first | rfl | cases silent
  | _ => rfl

namespace Occasion

/-- What the desk of a hub shows of an occasion. -/
inductive Shows : Occasion → Prop where
  /-- Nothing was written. -/
  | aside {before after : Hub} {exchange : Exchange} (silent : exchange.1.isWriting = false)
      (handles : Array HandleState) (desk : after.desk = { before.desk with handles := handles }) :
      Shows ⟨before, exchange, after⟩
  /-- A write was admitted. -/
  | write {before after : Hub} {answer : Receipt} (handle : Handle) (data : Bytes)
      (status : answer.status = before.desk.nextStatus)
      (desk : after.desk = before.desk.afterWrite) :
      Shows ⟨before, ⟨.broker (.write handle data), .ok answer⟩, after⟩
  /-- A submission was admitted. -/
  | submit {before after : Hub} {answer : Receipt} (handle : Handle) (data : Bytes)
      (status : answer.status = before.desk.nextStatus)
      (desk : after.desk =
        { before.desk.afterWrite with receipts := before.desk.receipts.push answer }) :
      Shows ⟨before, ⟨.broker (.submit handle data), .ok (some before.desk.receipts.size)⟩, after⟩

/-- The hub stays open, and keeps its destinations and its pace. -/
theorem Shows.same {occasion : Occasion} (shows : occasion.Shows) :
    occasion.after.closed = occasion.before.closed ∧
      occasion.after.topology = occasion.before.topology ∧
      occasion.after.throttleEvery = occasion.before.throttleEvery := by
  have hdesk : ∀ {desk : Hub.Desk}, occasion.after.desk = desk →
      desk.closed = occasion.before.closed → desk.topology = occasion.before.topology →
      desk.throttleEvery = occasion.before.throttleEvery →
      occasion.after.closed = occasion.before.closed ∧
        occasion.after.topology = occasion.before.topology ∧
        occasion.after.throttleEvery = occasion.before.throttleEvery := by
    rintro desk rfl hclosed htopology hpace
    exact ⟨hclosed, htopology, hpace⟩
  cases shows with
  | aside silent handles desk => exact hdesk desk rfl rfl rfl
  | write handle data status desk => exact hdesk desk rfl rfl rfl
  | submit handle data status desk => exact hdesk desk rfl rfl rfl

variable {before after : Hub} {exchange : Exchange} {handle : Handle}

/-- What an engine does through its handle, other than writing, is behind the desk. -/
theorem desk_of_uses (served : IsServed ⟨before, exchange, after⟩)
    (uses : exchange.1.uses handle = true) (silent : exchange.1.isWriting = false) :
    after.desk = before.desk := by
  obtain ⟨query, reply⟩ := exchange
  cases query with
  | broker call =>
    obtain ⟨-, rfl⟩ := served
    cases call with
    | request other => exact Hub.desk_request before other
    | read other => exact Hub.desk_read before other
    | ack delivery => exact Hub.desk_ack before delivery
    | nack delivery => exact Hub.desk_nack before delivery
    | _ => first | rfl | cases uses | cases silent
  | _ => exact congrArg Hub.desk served

/-- What an engine does about its handle changes that handle. -/
theorem changesHandle_of_tends (served : IsServed ⟨before, exchange, after⟩)
    (tends : exchange.1.tends handle = true) :
    Hub.ChangesHandle handle before after ∧ exchange.1.isWriting = false := by
  obtain ⟨query, reply⟩ := exchange
  cases query with
  | pause =>
    obtain rfl : after = before := served
    exact ⟨.refl _ handle, rfl⟩
  | broker call =>
    obtain ⟨-, rfl⟩ := served
    cases call with
    | openHandle other =>
      obtain rfl : other = handle := of_decide_eq_true tends
      exact ⟨Hub.changesHandle_open before other, rfl⟩
    | closeHandle other =>
      obtain rfl : other = handle := of_decide_eq_true tends
      exact ⟨Hub.changesHandle_close before other, rfl⟩
    | lastError other => exact ⟨.refl before handle, rfl⟩
    | _ => cases tends
  | _ => cases tends

/-- A write through an open publisher is admitted. -/
theorem shows_of_writes (served : IsServed ⟨before, exchange, after⟩)
    (uses : exchange.1.uses handle = true) (writes : exchange.1.isWriting = true)
    (admits : before.Admits handle) :
    Shows ⟨before, exchange, after⟩ ∧ after.handles = before.handles := by
  obtain ⟨query, reply⟩ := exchange
  cases query with
  | broker call =>
    obtain ⟨rfl, rfl⟩ := served
    cases call with
    | write other data =>
      obtain rfl : other = handle := of_decide_eq_true uses
      obtain ⟨hstatus, hdesk⟩ := admits.write data
      exact ⟨.write other data hstatus hdesk, congrArg Hub.Desk.handles hdesk⟩
    | submit other data =>
      obtain rfl : other = handle := of_decide_eq_true uses
      obtain ⟨hstatus, hdesk⟩ := admits.write data
      have hreceipts : (before.write other data).2.receipts = before.receipts :=
        congrArg Hub.Desk.receipts hdesk
      have hsubmit : (before.submit other data).2.desk =
          { (before.write other data).2.desk with
            receipts := (before.write other data).2.receipts.push (before.write other data).1 } :=
        rfl
      have hticket : (before.submit other data).1 = before.desk.receipts.size :=
        congrArg Array.size hreceipts
      refine ⟨?_, congrArg Hub.Desk.handles hdesk⟩
      rw [hdesk, hreceipts] at hsubmit
      have hshows := Shows.submit other data hstatus hsubmit
      rw [← hticket] at hshows
      exact hshows
    | _ => cases writes
  | _ => cases writes

end Occasion

/-! ## One worker -/

namespace Handling

/-- A hub knows the handle of an engine, while there is one.  That of a publisher is a
publisher, and is open while it is in use. -/
structure Stage.Fits (stage : Stage) (role : Role) (hub : Hub) : Prop where
  known : ∀ handle, stage.handle? = some handle → handle < hub.handles.size
  publisher : ∀ path handle, role = .publisher path → stage.handle? = some handle →
    ∃ isOpen error, hub.handles[handle]? = some (.publisher path isOpen error) ∧
      (stage.isWorking = true → isOpen = true)

/-- What a step of an engine does to the handles of a hub. -/
structure Stage.Keeps (stage later : Stage) (role : Role) (before after : Hub) : Prop where
  fits : later.Fits role after
  others : ∀ other < before.handles.size, stage.handle? ≠ some other →
    after.handles[other]? = before.handles[other]?
  fresh : ∀ handle, later.handle? = some handle →
    stage.handle? = some handle ∨ handle = before.handles.size
  size : before.handles.size ≤ after.handles.size

namespace Stage

variable {stage later : Stage} {role : Role} {before after : Hub} {exchange : Exchange}

theorem Fits.of_none (gone : stage.handle? = none) (hub : Hub) : stage.Fits role hub where
  known handle here := by
    rw [gone] at here
    cases here
  publisher path handle _ here := by
    rw [gone] at here
    cases here

/-- What does not touch a handle is nothing to whoever has it. -/
theorem Fits.of_eq (fits : stage.Fits role before) (size : before.handles.size ≤ after.handles.size)
    (same : ∀ handle, stage.handle? = some handle →
      after.handles[handle]? = before.handles[handle]?) : stage.Fits role after where
  known handle here := Nat.lt_of_lt_of_le (fits.known handle here) size
  publisher path handle hrole here := by
    rw [same handle here]
    exact fits.publisher path handle hrole here

/-- Handles that stay what they are are nothing to whoever has them. -/
theorem Keeps.refl (fits : stage.Fits role before) (same : after.handles = before.handles) :
    stage.Keeps stage role before after where
  fits :=
    { known := fun handle here => same ▸ fits.known handle here
      publisher := fun path handle hrole here => same ▸ fits.publisher path handle hrole here }
  others other _ _ := by rw [same]
  fresh _ here := .inl here
  size := Nat.le_of_eq (congrArg Array.size same.symm)

/-- One more handle is handed out. -/
theorem Keeps.of_push {state : HandleState} (pushed : after.handles = before.handles.push state)
    (new : ∀ handle, later.handle? = some handle → handle = before.handles.size)
    (publisher : ∀ path, role = .publisher path → state = .publisher path false "")
    (idle : later.isWorking = false) : stage.Keeps later role before after where
  fits :=
    { known := fun handle here => by
        rw [new handle here, pushed, Array.size_push]
        exact Nat.lt_succ_self _
      publisher := fun path handle hrole here => by
        refine ⟨false, "", ?_, fun working => absurd working (ne_true_of_eq_false idle)⟩
        rw [new handle here, pushed, Array.getElem?_push_size, publisher path hrole] }
  others other hother _ := by
    rw [pushed, Array.getElem?_push_lt hother, Array.getElem?_eq_getElem hother]
  fresh handle here := .inr (new handle here)
  size := by
    rw [pushed, Array.size_push]
    exact Nat.le_succ _

/-- Only the handle of the engine is changed. -/
theorem Keeps.of_others {handle : Handle} (fits : stage.Fits role before)
    (held : stage.handle? = some handle) (size : after.handles.size = before.handles.size)
    (others : ∀ other, other ≠ handle → after.handles[other]? = before.handles[other]?)
    (same : ∀ other, later.handle? = some other → other = handle)
    (publisher : ∀ path, role = .publisher path → later.handle? = some handle →
      ∃ isOpen error, after.handles[handle]? = some (.publisher path isOpen error) ∧
        (later.isWorking = true → isOpen = true)) : stage.Keeps later role before after where
  fits :=
    { known := fun other here => by
        rw [same other here, size]
        exact fits.known handle held
      publisher := fun path other hrole here => by
        obtain rfl := same other here
        exact publisher path hrole here }
  others other _ hne := others other fun heq => hne (heq ▸ held)
  fresh other here := .inl (same other here ▸ held)
  size := Nat.le_of_eq size.symm

/-- A step of an engine on an open hub that has its destination, if it has one. -/
theorem Steps.shows (steps : stage.Steps role exchange later) (fits : stage.Fits role before)
    (served : Occasion.IsServed ⟨before, exchange, after⟩) (isOpen : before.closed = false)
    (destined : ∀ path, role = .publisher path → (before.groups? path).isSome = true) :
    Occasion.Shows ⟨before, exchange, after⟩ ∧ stage.Keeps later role before after := by
  cases steps with
  | say stage emission =>
    obtain rfl : after = before := served
    exact ⟨.aside rfl after.handles rfl, .refl fits rfl⟩
  | create handle =>
    obtain ⟨hreply, rfl⟩ := served
    obtain ⟨hcreated, state, hdesk, hstate⟩ := Hub.desk_create isOpen role
    have hnew : handle = before.handles.size :=
      Option.some.inj ((Except.ok.inj hreply).trans hcreated)
    exact ⟨.aside rfl _ hdesk, .of_push (congrArg Hub.Desk.handles hdesk)
      (fun other here => (Option.some.inj here).symm.trans hnew) hstate rfl⟩
  | deny reply outcome =>
    obtain ⟨-, rfl⟩ := served
    obtain ⟨-, state, hdesk, hstate⟩ := Hub.desk_create isOpen role
    exact ⟨.aside rfl _ hdesk, .of_push (congrArg Hub.Desk.handles hdesk) (by simp) hstate rfl⟩
  | opened handle =>
    obtain ⟨hreply, rfl⟩ := served
    have hopened : (before.openHandle handle).1 = true := (Except.ok.inj hreply).symm
    obtain ⟨handles, hdesk, hsize, hothers⟩ := (Hub.changesHandle_open before handle).desk
    obtain rfl : (before.openHandle handle).2.handles = handles := congrArg Hub.Desk.handles hdesk
    refine ⟨.aside rfl _ hdesk, .of_others fits rfl hsize hothers
      (fun other here => (Option.some.inj here).symm) fun path hrole here => ?_⟩
    obtain ⟨wasOpen, error, hfound, -⟩ := fits.publisher path handle hrole rfl
    exact ⟨true, error, Hub.handle_of_open hfound hopened, fun _ => rfl⟩
  | work handle exchange uses sends =>
    cases hwrites : exchange.1.isWriting with
    | false =>
      have hdesk := Occasion.desk_of_uses served uses hwrites
      exact ⟨.aside hwrites before.handles hdesk, .refl fits (congrArg Hub.Desk.handles hdesk)⟩
    | true =>
      obtain ⟨path, hrole⟩ := sends (Exchange.isSending_of_isWriting hwrites)
      obtain ⟨wasOpen, error, hfound, hopen⟩ := fits.publisher path handle hrole rfl
      have hadmits : before.Admits handle :=
        ⟨isOpen, path, error, hopen rfl ▸ hfound, destined path hrole⟩
      obtain ⟨hshows, hhandles⟩ := Occasion.shows_of_writes served uses hwrites hadmits
      exact ⟨hshows, .refl fits hhandles⟩
  | pass handle exchange held kept idle tends =>
    obtain ⟨hchanges, hsilent⟩ := Occasion.changesHandle_of_tends served tends
    obtain ⟨handles, hdesk, hsize, hothers⟩ := hchanges.desk
    obtain rfl : after.handles = handles := congrArg Hub.Desk.handles hdesk
    refine ⟨.aside hsilent _ hdesk, .of_others fits held hsize hothers
      (fun other here => Option.some.inj (here.symm.trans kept)) fun path hrole here => ?_⟩
    obtain ⟨wasOpen, error, hfound, -⟩ := fits.publisher path handle hrole held
    obtain ⟨isOpen, error, hafter⟩ := hchanges.publisher path wasOpen error hfound
    exact ⟨isOpen, error, hafter, fun working => absurd working (ne_true_of_eq_false idle)⟩
  | release handle outcome =>
    obtain ⟨-, rfl⟩ := served
    obtain ⟨handles, hdesk, hsize, hothers⟩ := Hub.desk_release before handle
    obtain rfl : (before.release handle).handles = handles := congrArg Hub.Desk.handles hdesk
    exact ⟨.aside rfl _ hdesk, .of_others fits rfl hsize hothers (by simp) (by simp)⟩

end Stage
end Handling

/-! ## All workers -/

namespace Worker

/-- The handle of a worker, while it has one. -/
def handle? (worker : Worker) : Option Handle := worker.engine.stage.handle?

/-- Whether a hub knows what a worker needs of it. -/
structure IsPlaced (worker : Worker) (hub : Hub) : Prop where
  fits : worker.engine.stage.Fits worker.engine.role hub
  destined : ∀ path, worker.engine.role = .publisher path → (hub.groups? path).isSome = true

end Worker

/-- An engine that has not begun has no handle. -/
theorem Engine.IsNew.stage {engine : Engine} (new : engine.IsNew) : engine.stage = .creating := by
  cases new with
  | producer isPipelined options => cases isPipelined <;> rfl
  | consumer isPipelined options => cases isPipelined <;> rfl

namespace Crew

/-- A crew at work on an open hub, every worker with a handle to itself. -/
structure IsManned (crew : Crew Hub) : Prop where
  isOpen : crew.shared.client.closed = false
  placed : ∀ worker ∈ crew.workers, worker.IsPlaced crew.shared.client
  apart : (crew.workers.filterMap Worker.handle?).Nodup

theorem IsManned.opening {hub : Hub} {staff : List (String × Engine)} (isOpen : hub.closed = false)
    (new : ∀ member ∈ staff, member.2.IsNew)
    (destined : ∀ member ∈ staff, ∀ path, member.2.role = .publisher path →
      (hub.groups? path).isSome = true) : (opening hub staff).IsManned := by
  have hworker : ∀ worker ∈ (Crew.opening hub staff).workers,
      worker.IsPlaced hub ∧ worker.handle? = none := by
    intro worker hmem
    obtain ⟨member, hmember, rfl⟩ := List.mem_map.1 hmem
    have hnone : member.2.stage.handle? = none := by rw [(new member hmember).stage]; rfl
    exact ⟨⟨.of_none hnone hub, destined member hmember⟩, hnone⟩
  refine ⟨isOpen, fun worker hmem => (hworker worker hmem).1, ?_⟩
  rw [List.filterMap_eq_nil_iff.2 fun worker hmem => (hworker worker hmem).2]
  exact List.nodup_nil

/-- A step of a crew keeps it so, and a hub shows what is asked. -/
theorem IsManned.steps {crew after : Crew Hub} {more : Past} (manned : crew.IsManned)
    (steps : Steps crew more after) : after.IsManned ∧ ∀ occasion ∈ more, occasion.Shows := by
  cases steps with
  | @live number worker life shared found name client ledger honest =>
    obtain ⟨hlt, rfl⟩ := List.getElem?_eq_some_iff.1 found
    refine ⟨⟨client ▸ manned.isOpen, fun worker hmem => ?_, ?_⟩, by simp⟩
    · rw [client]
      rcases List.mem_or_eq_of_mem_set hmem with hbefore | rfl
      · exact manned.placed worker hbefore
      · have hplaced := manned.placed _ (List.getElem_mem hlt)
        exact ⟨hplaced.fits, hplaced.destined⟩
    · have hhandles := map_set_of_eq (f := Worker.handle?)
        (a := { crew.workers[number] with life := life }) hlt rfl
      have hread : ∀ workers : List Worker, workers.filterMap Worker.handle? =
          (workers.map Worker.handle?).filterMap id := fun workers => by
        rw [List.filterMap_map]
        rfl
      rw [hread, hhandles, ← hread]
      exact manned.apart
  | @ask number worker query next shared found asks reply served ledger =>
    obtain ⟨hlt, rfl⟩ := List.getElem?_eq_some_iff.1 found
    -- the worker that asks, and the others
    obtain ⟨others, hothers⟩ : ∃ others, others = crew.workers.eraseIdx number := ⟨_, rfl⟩
    have hbefore : (crew.workers[number] :: others).Perm crew.workers :=
      hothers ▸ List.getElem_cons_eraseIdx_perm hlt
    have hafter : (crew.workers.set number { crew.workers[number] with engine := next reply }).Perm
        ({ crew.workers[number] with engine := next reply } :: others) :=
      hothers ▸ List.set_perm_cons_eraseIdx hlt _
    have hplaced := manned.placed _ (List.getElem_mem hlt)
    obtain ⟨hsteps, hrole, -⟩ := Engine.steps asks reply
    obtain ⟨hshows, hkeeps⟩ := hsteps.shows hplaced.fits served manned.isOpen hplaced.destined
    have hapart := (hbefore.filterMap Worker.handle?).nodup_iff.2 manned.apart
    have hcold : ∀ other ∈ others, ∀ handle, other.handle? = some handle →
        crew.workers[number].handle? ≠ some handle := by
      intro other hother handle here hsame
      rw [List.filterMap_cons_some hsame] at hapart
      exact (List.nodup_cons.1 hapart).1 (List.mem_filterMap.2 ⟨other, hother, here⟩)
    obtain ⟨hisOpen, htopology, -⟩ := hshows.same
    have hgroups : ∀ path, shared.client.groups? path = crew.shared.client.groups? path :=
      fun path => congrArg (List.lookup path) htopology
    refine ⟨⟨hisOpen.trans manned.isOpen, fun worker hmem => ?_, ?_⟩, by simpa using hshows⟩
    · rcases List.mem_cons.1 (hafter.subset hmem) with rfl | hother
      · exact ⟨hrole ▸ hkeeps.fits, fun path here =>
          hgroups path ▸ hplaced.destined path (hrole ▸ here)⟩
      · have hplaced := manned.placed worker (hbefore.subset (List.mem_cons_of_mem _ hother))
        refine ⟨hplaced.fits.of_eq hkeeps.size fun handle here => ?_, fun path here =>
          hgroups path ▸ hplaced.destined path here⟩
        exact hkeeps.others handle (hplaced.fits.known handle here)
          (hcold worker hother handle here)
    · refine (hafter.filterMap Worker.handle?).nodup_iff.2 ?_
      have hrest : (others.filterMap Worker.handle?).Nodup :=
        ((List.sublist_cons_self _ others).filterMap Worker.handle?).nodup hapart
      cases hhandle : Worker.handle? { crew.workers[number] with engine := next reply } with
      | none => rwa [List.filterMap_cons_none hhandle]
      | some handle =>
        rw [List.filterMap_cons_some hhandle]
        refine List.nodup_cons.2 ⟨fun hmem => ?_, hrest⟩
        obtain ⟨other, hother, here⟩ := List.mem_filterMap.1 hmem
        rcases hkeeps.fresh handle hhandle with hsame | rfl
        · exact hcold other hother handle here hsame
        · have hplaced := manned.placed other (hbefore.subset (List.mem_cons_of_mem _ hother))
          exact Nat.lt_irrefl _ (hplaced.fits.known _ here)

end Crew
end BrokerLoad
