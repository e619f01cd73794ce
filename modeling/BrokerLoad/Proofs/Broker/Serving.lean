import BrokerLoad.Proofs.Broker.Handing

/-!
# Every call is told in the chronicle

What a hub does in a call is a chain of steps that act on one queue each, and of steps that
act on none: a write puts a copy into one queue after another, and what is deleted is taken
out of the topology before its queues are shut down.  `Leads.serve` says so of every call, and
`leads_after` of any number of calls.
-/

namespace BrokerLoad
namespace Hub

/-! ## Reaching queues -/

theorem mem_reachable {hub : Hub} {number : Nat} : number ∈ hub.reachable ↔
    ∃ entry ∈ hub.topology, number ∈ entry.2.map Prod.snd :=
  List.mem_flatMap

/-- The queue of a group can be reached. -/
theorem mem_reachable_of_groups? {hub : Hub} {path : String} {groups : List (String × Nat)}
    (hgroups : hub.groups? path = some groups) {number : Nat}
    (hnumber : number ∈ groups.map Prod.snd) : number ∈ hub.reachable := by
  obtain ⟨before, behind, htopology, -⟩ := List.lookup_eq_some_iff.1 hgroups
  rw [mem_reachable, htopology]
  exact ⟨_, List.mem_append_right _ List.mem_cons_self, hnumber⟩

/-- What can be reached when the groups of a destination change. -/
theorem mem_reachable_withGroups {hub : Hub} {path : String}
    {f : List (String × Nat) → List (String × Nat)} {number : Nat}
    (hnumber : number ∈ (hub.withGroups path f).reachable) :
    number ∈ hub.reachable ∨ ∃ entry ∈ hub.topology, number ∈ (f entry.2).map Prod.snd := by
  obtain ⟨changed, hchanged, hmem⟩ := mem_reachable.1 hnumber
  obtain ⟨entry, hentry, rfl⟩ := List.mem_map.1 hchanged
  split at hmem
  · exact .inr ⟨entry, hentry, hmem⟩
  · exact .inl (mem_reachable.2 ⟨entry, hentry, hmem⟩)

theorem size_queues_pushTo (hub : Hub) (data : Bytes) (number : Nat) :
    (hub.pushTo data number).queues.size = hub.queues.size := by
  rw [Hub.pushTo]
  split
  · rfl
  · rw [queues_serveParked]
    exact Array.size_setIfInBounds

namespace Leads

/-! ## Writing -/

/-- A write puts a copy into the queue of each group of its destination, if it is accepted. -/
theorem pushAll (hub : Hub) (data : Bytes) {numbers : List Nat}
    (hnumbers : ∀ number ∈ numbers, number < hub.queues.size) :
    Leads hub (numbers.foldl (fun hub number => hub.pushTo data number) hub)
      (numbers.map fun number => .put number data) := by
  induction numbers generalizing hub with
  | nil => exact .refl hub
  | cons number rest ih =>
    refine (pushTo hub data (hnumbers number List.mem_cons_self)).trans
      (ih _ fun other hother => ?_)
    rw [size_queues_pushTo]
    exact hnumbers other (List.mem_cons_of_mem _ hother)

theorem countWrite (hub : Hub) (status : WriteStatus) : Leads hub (hub.countWrite status) [] := by
  cases status <;> exact of_eq rfl rfl fun _ => id

theorem publish (hub : Hub) (path : String) (data : Bytes) :
    Leads hub (hub.publish path data).2
      ((if (hub.publish path data).1.status = .ok then
        ((hub.groups? path).getD []).map Prod.snd else []).map fun number => .put number data) := by
  rw [Hub.publish]
  split
  next => exact countWrite hub .failed
  next =>
    cases hgroups : hub.groups? path with
    | none => exact countWrite hub .failed
    | some groups =>
      have hadmitted : Leads hub { hub with writes := hub.writes + 1 } [] :=
        of_eq rfl rfl fun _ => id
      dsimp only
      split
      next => exact hadmitted.trans (countWrite _ .throttled)
      next =>
        intro chronicle tells
        have hnumbers : ∀ number ∈ groups.map Prod.snd, number < hub.queues.size :=
          fun number hnumber => tells.reachable number (mem_reachable_of_groups? hgroups hnumber)
        have hall := (hadmitted.trans (pushAll { hub with writes := hub.writes + 1 } data
          hnumbers)).trans (countWrite _ .ok)
        rw [List.nil_append, List.append_nil] at hall
        exact hall chronicle tells

theorem write (hub : Hub) (handle : Handle) (data : Bytes) :
    Leads hub (hub.write handle data).2 (hub.entries (.write handle data)) := by
  rw [entries, targets]
  cases hstate : hub.handles[handle]? with
  | none =>
    rw [Hub.write, hstate]
    exact .refl hub
  | some state =>
    cases state with
    | consumer path group reader queue lastError =>
      rw [Hub.write, hstate]
      exact .refl hub
    | released =>
      rw [Hub.write, hstate]
      exact .refl hub
    | publisher path isOpen lastError =>
      cases isOpen with
      | false =>
        have hwrite : hub.write handle data =
            ({ status := .failed, detail := "publisher not open" }, hub) := by
          rw [Hub.write, hstate]
        rw [hwrite]
        exact .refl hub
      | true =>
        have hwrite : hub.write handle data = hub.publish path data := by
          rw [Hub.write, hstate]
        rw [hwrite]
        exact publish hub path data

theorem submit (hub : Hub) (handle : Handle) (data : Bytes) :
    Leads hub (hub.submit handle data).2 (hub.entries (.submit handle data)) := by
  have hkept : Leads (hub.write handle data).2 (hub.submit handle data).2 [] :=
    of_eq rfl rfl fun _ => id
  have hboth := (write hub handle data).trans hkept
  rwa [List.append_nil] at hboth

/-! ## Administration -/

/-- A queue is created. -/
theorem of_queues_push {hub after : Hub} {maxDeliveries redeliverEvery : UInt32}
    (hqueues : after.queues = hub.queues.push (Queue.create maxDeliveries redeliverEvery))
    (hawaited : after.awaited = hub.awaited)
    (hreachable : ∀ number ∈ after.reachable, number ∈ hub.reachable ∨ number = hub.queues.size) :
    Leads hub after [] := by
  intro chronicle tells
  have hsize : after.queues.size = hub.queues.size + 1 := by
    rw [hqueues, Array.size_push]
  have hold : ∀ {number : Nat} {queue : Queue Bytes}, hub.queues[number]? = some queue →
      after.queues[number]? = some queue := by
    intro number queue hqueue
    have hlt := (Array.getElem?_eq_some_iff.1 hqueue).1
    rw [hqueues, Array.getElem?_push, if_neg (Nat.ne_of_lt hlt)]
    exact hqueue
  have harrived : ∀ number, after.arrivedFrom number = hub.arrivedFrom number := by
    intro number
    rw [arrivedFrom, arrivedFrom, hawaited]
  rw [List.append_nil]
  refine ⟨{
    queues := ?_
    numbers := fun entry hentry => hsize ▸ Nat.lt_succ_of_lt (tells.numbers entry hentry)
    arrivals := fun {number} hnumber =>
      (harrived number).trans
        (tells.arrivals (Nat.le_of_succ_le (Nat.le_trans (Nat.le_of_eq hsize.symm) hnumber)))
    reachable := fun number hnumber => ?_
    apart := tells.apart
    known := hawaited ▸ tells.known
    pending := fun hticket => ?_ }, {
    queues := fun {_ queue} hqueue => ⟨queue, hold hqueue, id⟩
    awaited := fun hanswer _ => hawaited ▸ hanswer }⟩
  · intro number queue hqueue
    rw [hqueues, Array.getElem?_push] at hqueue
    split at hqueue
    next hnumber =>
      cases hqueue
      obtain ⟨hput, htaken, hparked⟩ := nil_of_number_ne number
        fun (entry : Entry) hentry => hnumber ▸ Nat.ne_of_lt (tells.numbers entry hentry)
      have hnone : hub.arrivedFrom number = [] := tells.arrivals (Nat.le_of_eq hnumber.symm)
      exact ⟨{}, {
        keeps := .create _ _
        put := hput.symm
        handed := by rw [htaken, harrived, hnone]; rfl
        waited := by rw [hparked]; rfl
        served := fun _ hpair => absurd hpair List.not_mem_nil
        parked := fun _ hread => absurd hread List.not_mem_nil }⟩
    next hnumber =>
      obtain ⟨journal, hagrees⟩ := tells.queues hqueue
      have hframed := hagrees.frame after []
        (fun _ hentry => absurd hentry List.not_mem_nil)
        (.of_eq (harrived number)) (fun ticket answer hanswer _ => hawaited ▸ hanswer)
        (fun ticket hticket => tells.known hticket)
      exact ⟨journal, List.append_nil chronicle ▸ hframed⟩
  · rw [hsize]
    rcases hreachable number hnumber with hbefore | hnew
    · exact Nat.lt_succ_of_lt (tells.reachable number hbefore)
    · exact hnew ▸ Nat.lt_succ_self _
  · rw [hawaited] at hticket
    obtain ⟨number, queue, hqueue, hparked⟩ := tells.pending hticket
    exact ⟨number, queue, hold hqueue, hparked⟩

/-- Nothing can be reached by a new group but its own queue. -/
theorem createGroup (hub : Hub) (group : GroupSpec) : Leads hub (hub.createGroup group).2 [] := by
  rw [Hub.createGroup]
  split
  · exact .refl hub
  · split
    · exact .refl hub
    · split
      · exact .refl hub
      · dsimp only
        split
        · exact .refl hub
        · refine of_queues_push rfl rfl fun number hnumber => ?_
          rcases mem_reachable_withGroups hnumber with hbefore | ⟨entry, hentry, hmem⟩
          · exact .inl hbefore
          · rw [List.map_append, List.mem_append, List.map_singleton, List.mem_singleton] at hmem
            exact hmem.imp_left fun hold => mem_reachable.2 ⟨entry, hentry, hold⟩

theorem deleteGroup (hub : Hub) (path name : String) :
    Leads hub (hub.deleteGroup path name).2 [] := by
  rw [Hub.deleteGroup]
  split
  · exact .refl hub
  · split
    · exact .refl hub
    next number hnumber =>
      have hremoved : Leads hub
          (hub.withGroups path fun groups => groups.filter fun entry => entry.1 ≠ name) [] := by
        refine of_eq rfl rfl fun other hother => ?_
        rcases mem_reachable_withGroups hother with hbefore | ⟨entry, hentry, hmem⟩
        · exact hbefore
        · exact mem_reachable.2 ⟨entry, hentry, (List.filter_sublist.map _).subset hmem⟩
      exact hremoved.trans (shutQueue _ number)

theorem deleteDestination (hub : Hub) (path : String) :
    Leads hub (hub.deleteDestination path).2 [] := by
  rw [Hub.deleteDestination]
  split
  · exact .refl hub
  · split
    · exact .refl hub
    next groups hgroups =>
      have hremoved : Leads hub
          { hub with topology := hub.topology.filter fun entry => entry.1 ≠ path } [] := by
        refine of_eq rfl rfl fun other hother => ?_
        obtain ⟨entry, hentry, hmem⟩ := mem_reachable.1 hother
        exact mem_reachable.2 ⟨entry, List.mem_of_mem_filter hentry, hmem⟩
      exact hremoved.trans (shutQueues _ (groups.map Prod.snd))

theorem createDestination (hub : Hub) (destination : DestinationSpec) :
    Leads hub (hub.createDestination destination).2 [] := by
  rw [Hub.createDestination]
  split
  · exact .refl hub
  · split
    · exact .refl hub
    · split
      · exact .refl hub
      · refine of_eq rfl rfl fun number hnumber => ?_
        obtain ⟨entry, hentry, hmem⟩ := mem_reachable.1 hnumber
        rcases List.mem_append.1 hentry with hold | hnew
        · exact mem_reachable.2 ⟨entry, hold, hmem⟩
        · rw [List.mem_singleton.1 hnew] at hmem
          cases hmem

theorem close (hub : Hub) : Leads hub hub.close [] := by
  rw [Hub.close]
  split
  · exact .refl hub
  · have hclosed : Leads hub { hub with closed := true } [] := of_eq rfl rfl fun _ => id
    exact hclosed.trans (shutQueues _ _)

/-! ## Handles -/

theorem putHandle (hub : Hub) (handle : Handle) (state : HandleState) :
    Leads hub (hub.putHandle handle state) [] :=
  of_eq rfl rfl fun _ => id

theorem create (hub : Hub) (role : Role) : Leads hub (hub.create role).2 [] := by
  unfold Hub.create
  split
  · exact .refl hub
  · split <;> exact of_eq rfl rfl fun _ => id

theorem openHandle (hub : Hub) (handle : Handle) : Leads hub (hub.openHandle handle).2 [] := by
  rw [Hub.openHandle]
  split
  · split <;> exact putHandle hub handle _
  · split <;> exact putHandle hub handle _
  · exact .refl hub

theorem closeHandle (hub : Hub) (handle : Handle) : Leads hub (hub.closeHandle handle) [] := by
  rw [Hub.closeHandle]
  split
  · exact putHandle hub handle _
  · exact (dropReads hub _ _).trans (putHandle _ handle _)
  · exact .refl hub

/-- Every call is told in the chronicle. -/
theorem serve (hub : Hub) (call : Call) : Leads hub (hub.serve call).client (hub.entries call) := by
  cases call with
  | createDestination destination => exact createDestination hub destination
  | createGroup group => exact createGroup hub group
  | deleteGroup path name => exact deleteGroup hub path name
  | deleteDestination path => exact deleteDestination hub path
  | shutDown => exact close hub
  | create role => exact create hub role
  | openHandle handle => exact openHandle hub handle
  | lastError handle => exact .refl hub
  | closeHandle handle => exact closeHandle hub handle
  | release handle => exact (closeHandle hub handle).trans (putHandle _ handle _)
  | submit handle data => exact submit hub handle data
  | receiptReady ticket => exact .refl hub
  | takeReceipt ticket => exact .refl hub
  | write handle data => exact write hub handle data
  | request handle => exact request hub handle
  | deliveryReady ticket => exact .refl hub
  | takeDelivery ticket => exact .refl hub
  | read handle => exact read hub handle
  | ack delivery => exact ack hub delivery
  | nack delivery => exact nack hub delivery

end Leads

/-- Hubs keep the journals of their queues, whatever calls they serve. -/
theorem leads_after (hub : Hub) (calls : List Call) :
    Leads hub (hub.after calls) (hub.chronicle calls) := by
  induction calls generalizing hub with
  | nil => exact .refl hub
  | cons call calls ih => exact (Leads.serve hub call).trans (ih _)

/-- A hub without queues has nothing to tell. -/
theorem tells_fresh (throttleEvery redeliverEvery : UInt32) :
    Tells { throttleEvery, redeliverEvery } [] where
  queues := nofun
  numbers := nofun
  arrivals _ := rfl
  reachable := nofun
  apart := nofun
  known := nofun
  pending := nofun

end Hub
end BrokerLoad
