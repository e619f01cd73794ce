import BrokerLoad.Proofs.Broker.Turning

/-!
# Every call keeps the account

A call that is not calm creates a queue, in which nothing has moved, or shuts queues down.
What is ready in a queue that is shut down is thrown away, and the hub counts nothing; a
queue that was shut down before has nothing ready.

`Hub.Accounts.serve` puts this together with the calm calls.  That every queue has one name,
and is open if it can be reached, goes along with it, since writes depend on it.
-/

namespace BrokerLoad
namespace Hub

/-! ## Queues that come and go -/

/-- Nothing is thrown away when a queue is created. -/
theorem discards_of_push {before after : Hub} {queue : Queue Bytes}
    (hqueues : after.queues = before.queues.push queue) (number : Nat) :
    before.discards after number = 0 := by
  rw [discards, hqueues]
  cases hbefore : before.queues[number]? with
  | none => rfl
  | some found =>
    have hlt := (Array.getElem?_eq_some_iff.1 hbefore).1
    rw [Array.getElem?_push, if_neg (Nat.ne_of_lt hlt), hbefore]
    dsimp only
    rw [Bool.not_and_self, if_neg Bool.false_ne_true]

/-- A group that is created has a queue of its own, and the others keep theirs. -/
theorem createGroup_cases (hub : Hub) (group : GroupSpec) :
    ((hub.createGroup group).1 ≠ .success ∧ (hub.createGroup group).2 = hub) ∨
    ((hub.createGroup group).1 = .success ∧ (hub.createGroup group).2.queues =
      hub.queues.push (.create group.maxDeliveries hub.redeliverEvery) ∧
      (hub.createGroup group).2.counts = hub.counts) := by
  rw [createGroup]
  split
  · exact .inl ⟨by simp, rfl⟩
  · split
    · exact .inl ⟨by simp, rfl⟩
    · split
      · exact .inl ⟨by simp, rfl⟩
      · dsimp only
        split
        · exact .inl ⟨by simp, rfl⟩
        · exact .inr ⟨rfl, rfl, rfl⟩

/-- Nothing is put in by a read. -/
theorem putInto_read (hub : Hub) (handle : Handle) (number : Nat) :
    putInto number (hub.entries (.read handle)) = [] := by
  rw [entries]
  cases (hub.read handle).1 <;> rfl

/-- Nor by a request. -/
theorem putInto_request (hub : Hub) (handle : Handle) (number : Nat) :
    putInto number (hub.entries (.request handle)) = [] := by
  rw [entries]
  split
  · split <;> rfl
  · rfl

theorem counts_shutQueues (hub : Hub) (numbers : List Nat) :
    (hub.shutQueues numbers).counts = hub.counts := by
  induction numbers generalizing hub with
  | nil => rfl
  | cons number rest ih =>
    refine (ih (hub.shutQueue number)).trans ?_
    rw [shutQueue]
    split
    · rfl
    · rw [counts_resolveAll]
      rfl

theorem size_shutQueues (hub : Hub) (numbers : List Nat) :
    (hub.shutQueues numbers).queues.size = hub.queues.size := by
  induction numbers generalizing hub with
  | nil => rfl
  | cons number rest ih =>
    refine (ih (hub.shutQueue number)).trans ?_
    rw [shutQueue]
    split
    · rfl
    · rw [queues_resolveAll, putQueue, Array.size_setIfInBounds]

namespace Balances

variable {hub after : Hub} {moved : Nat → Movement → Nat} {handed : Nat → Nat}

theorem fresh (throttleEvery redeliverEvery : UInt32) :
    Balances { throttleEvery, redeliverEvery } 0 0 where
  queues := nofun
  numbers _ _ := ⟨rfl, rfl⟩
  deliveries := rfl
  acks := rfl
  nacks := rfl
  redeliveries := rfl

/-- A queue is created, in which nothing has moved. -/
theorem of_queues_push (balances : hub.Balances moved handed) {queue : Queue Bytes}
    (hnew : queue.Balances 0 0 0) (hqueues : after.queues = hub.queues.push queue)
    (hcounts : after.counts = hub.counts) : after.Balances moved handed := by
  have hsize : after.queues.size = hub.queues.size + 1 := by
    rw [hqueues, Array.size_push]
  obtain ⟨hmoved, hhanded⟩ := balances.numbers _ (Nat.le_refl _)
  have htotal : ∀ f : Nat → Nat, f hub.queues.size = 0 → after.total f = hub.total f := by
    intro f hzero
    rw [total, hsize, Finset.sum_range_succ, hzero]
    rfl
  exact {
    queues := fun {number queue} hqueue => by
      rw [hqueues, Array.getElem?_push] at hqueue
      split at hqueue
      next hnumber =>
        cases hqueue
        rw [hnumber, hmoved, hhanded]
        exact hnew
      next => exact balances.queues hqueue
    numbers := fun number hnumber => balances.numbers number (by omega)
    deliveries := by rw [hcounts, htotal _ hhanded, balances.deliveries]
    acks := by rw [hcounts, htotal _ (by rw [hmoved]; rfl), balances.acks]
    nacks := by rw [hcounts, htotal _ (by rw [hmoved]; rfl), balances.nacks]
    redeliveries := by rw [hcounts, htotal _ (by rw [hmoved]; rfl), balances.redeliveries] }

/-- Queues are shut down. -/
theorem shutQueues (balances : hub.Balances moved handed) (numbers : List Nat) :
    (hub.shutQueues numbers).Balances (moved + hub.thrownAway (hub.shutQueues numbers))
      handed := by
  have hsize := size_shutQueues hub numbers
  have hsame : ∀ way ≠ Movement.discarded, (hub.shutQueues numbers).total
      (fun number => (moved + hub.thrownAway (hub.shutQueues numbers)) number way) =
      hub.total fun number => moved number way := by
    intro way hway
    rw [total, total, hsize]
    refine Finset.sum_congr rfl fun number _ => ?_
    rw [Pi.add_apply, Pi.add_apply, thrownAway, Pi.single_eq_of_ne hway, Nat.add_zero]
  refine {
    queues := fun {number queue} hqueue => ?_
    numbers := fun number hnumber => ?_
    deliveries := ?_
    acks := by rw [counts_shutQueues, hsame _ (by decide), balances.acks]
    nacks := by rw [counts_shutQueues, hsame _ (by decide), balances.nacks]
    redeliveries := by rw [counts_shutQueues, hsame _ (by decide), balances.redeliveries] }
  · rw [getElem?_shutQueues] at hqueue
    obtain ⟨found, hfound, rfl⟩ := Option.map_eq_some_iff.1 hqueue
    have hbefore := balances.queues hfound
    rw [Pi.add_apply, thrownAway, discards, hfound, getElem?_shutQueues, hfound, Option.map_some]
    dsimp only
    split
    next hmem =>
      have hshut := hbefore.shutDown
      cases hclosed : found.closed with
      | true =>
        rw [hclosed, if_pos rfl] at hshut
        exact hshut
      | false =>
        rw [hclosed, if_neg Bool.false_ne_true] at hshut
        exact hshut
    next hmem =>
      rw [Bool.not_and_self, if_neg Bool.false_ne_true, Pi.single_zero, add_zero]
      exact hbefore
  · rw [hsize] at hnumber
    obtain ⟨hmoved, hhanded⟩ := balances.numbers number hnumber
    have hnone : hub.queues[number]? = none := Array.getElem?_eq_none hnumber
    rw [Pi.add_apply, hmoved, thrownAway, discards, hnone, Pi.single_zero]
    exact ⟨rfl, hhanded⟩
  · rw [counts_shutQueues, total, hsize]
    exact balances.deliveries

/-- What is counted does not depend on names or on whether the hub is open. -/
theorem of_eq (balances : hub.Balances moved handed) (hqueues : after.queues = hub.queues)
    (hcounts : after.counts = hub.counts) : after.Balances moved handed where
  queues := hqueues ▸ balances.queues
  numbers := hqueues ▸ balances.numbers
  deliveries := by rw [hcounts, total, hqueues]; exact balances.deliveries
  acks := by rw [hcounts, total, hqueues]; exact balances.acks
  nacks := by rw [hcounts, total, hqueues]; exact balances.nacks
  redeliveries := by rw [hcounts, total, hqueues]; exact balances.redeliveries

end Balances

/-- What was moved so far accounts for what is in the queues, each of which has one name. -/
structure Accounts (hub : Hub) (moved : Nat → Movement → Nat) : Prop where
  named : hub.IsNamed
  balances : ∃ handed, hub.Balances moved handed

namespace Accounts

theorem fresh (throttleEvery redeliverEvery : UInt32) :
    Accounts { throttleEvery, redeliverEvery } 0 where
  named := { paths := .nil, apart := .nil, isOpen := nofun }
  balances := ⟨0, .fresh throttleEvery redeliverEvery⟩

variable {hub after : Hub} {moved gain : Nat → Movement → Nat}

theorem turn (accounts : hub.Accounts moved) (turns : hub.Turns after gain) :
    after.Accounts (moved + gain) where
  named := accounts.named.of_calm turns.calm
  balances := by
    obtain ⟨handed, hbalances⟩ := accounts.balances
    exact turns.balances hbalances

/-- A calm call that puts nothing in and settles nothing. -/
theorem rest (accounts : hub.Accounts moved) {call : Call} (hcall : call.isSettling = false)
    (hput : ∀ number, putInto number (hub.entries call) = [])
    (turns : hub.Turns (hub.serve call).client 0) :
    (hub.serve call).client.Accounts (moved + hub.moved call) := by
  have hnone : hub.moved call = 0 := by
    rw [moved_of_calm hcall turns.calm]
    funext number
    rw [hput, List.length_nil, Pi.single_zero, Pi.zero_apply]
  rw [hnone]
  exact accounts.turn turns

/-- A call that shuts queues down, if any, and does nothing else to queues and counts. -/
theorem administer (accounts : hub.Accounts moved) {call : Call}
    (hcall : call.isSettling = false) (hentries : hub.entries call = [])
    (hnamed : (hub.serve call).client.IsNamed)
    (hserved : ∃ between numbers, (hub.serve call).client = shutQueues between numbers ∧
      between.queues = hub.queues ∧ between.counts = hub.counts) :
    (hub.serve call).client.Accounts (moved + hub.moved call) := by
  obtain ⟨between, numbers, hserved, hqueues, hcounts⟩ := hserved
  obtain ⟨handed, hbalances⟩ := accounts.balances
  have hbetween := (hbalances.of_eq hqueues hcounts).shutQueues numbers
  have hmoved : hub.moved call = between.thrownAway (between.shutQueues numbers) := by
    rw [moved_of_idle hcall hentries, hserved]
    funext number
    rw [thrownAway, thrownAway, discards, discards, hqueues]
  rw [hmoved]
  exact ⟨hnamed, handed, hserved ▸ hbetween⟩

theorem createDestination (accounts : hub.Accounts moved) (destination : DestinationSpec) :
    (hub.serve (.createDestination destination)).client.Accounts
      (moved + hub.moved (.createDestination destination)) := by
  refine accounts.administer rfl rfl (accounts.named.createDestination destination)
    ⟨(hub.createDestination destination).2, [], rfl, ?_⟩
  rw [Hub.createDestination]
  split
  · exact ⟨rfl, rfl⟩
  · split
    · exact ⟨rfl, rfl⟩
    · split <;> exact ⟨rfl, rfl⟩

/-- A group that is created has a queue in which nothing has moved. -/
theorem createGroup (accounts : hub.Accounts moved) (group : GroupSpec) :
    (hub.serve (.createGroup group)).client.Accounts
      (moved + hub.moved (.createGroup group)) := by
  have hnamed := accounts.named.createGroup group
  rcases hub.createGroup_cases group with ⟨-, hsame⟩ | ⟨-, hqueues, hcounts⟩
  · exact accounts.administer rfl rfl hnamed ⟨hub, [], hsame, rfl, rfl⟩
  · obtain ⟨handed, hbalances⟩ := accounts.balances
    have hnone : hub.moved (.createGroup group) = 0 := by
      rw [moved_of_idle rfl rfl]
      funext number
      have hzero : hub.discards (hub.serve (.createGroup group)).client number = 0 :=
        discards_of_push hqueues number
      rw [thrownAway, hzero, Pi.single_zero, Pi.zero_apply]
    rw [hnone, add_zero]
    exact ⟨hnamed, handed, hbalances.of_queues_push (.create _ _) hqueues hcounts⟩

theorem deleteGroup (accounts : hub.Accounts moved) (path name : String) :
    (hub.serve (.deleteGroup path name)).client.Accounts
      (moved + hub.moved (.deleteGroup path name)) := by
  refine accounts.administer rfl rfl (accounts.named.deleteGroup path name) ?_
  show ∃ between numbers, (hub.deleteGroup path name).2 = _ ∧ _
  rw [Hub.deleteGroup]
  split
  · exact ⟨hub, [], rfl, rfl, rfl⟩
  · split
    · exact ⟨hub, [], rfl, rfl, rfl⟩
    next number hnumber => exact ⟨_, [number], rfl, rfl, rfl⟩

theorem deleteDestination (accounts : hub.Accounts moved) (path : String) :
    (hub.serve (.deleteDestination path)).client.Accounts
      (moved + hub.moved (.deleteDestination path)) := by
  refine accounts.administer rfl rfl (accounts.named.deleteDestination path) ?_
  show ∃ between numbers, (hub.deleteDestination path).2 = _ ∧ _
  rw [Hub.deleteDestination]
  split
  · exact ⟨hub, [], rfl, rfl, rfl⟩
  · split
    · exact ⟨hub, [], rfl, rfl, rfl⟩
    · exact ⟨_, _, rfl, rfl, rfl⟩

theorem shutDown (accounts : hub.Accounts moved) :
    (hub.serve .shutDown).client.Accounts (moved + hub.moved .shutDown) := by
  refine accounts.administer rfl rfl accounts.named.close ?_
  show ∃ between numbers, hub.close = _ ∧ _
  rw [close]
  split
  · exact ⟨hub, [], rfl, rfl, rfl⟩
  · exact ⟨_, _, rfl, rfl, rfl⟩

/-- What a write or a submission moves is copies. -/
theorem copies (accounts : hub.Accounts moved) {call : Call} {handle : Handle} {data : Bytes}
    (hcall : call.isSettling = false)
    (hentries : hub.entries call = (hub.targets handle data).map fun number => .put number data)
    (turns : hub.Turns (hub.serve call).client fun number =>
      Pi.single .copied ((hub.targets handle data).count number)) :
    (hub.serve call).client.Accounts (moved + hub.moved call) := by
  have hmoved := moved_of_calm hcall turns.calm
  simp only [hentries, length_putInto_map] at hmoved
  rw [hmoved]
  exact accounts.turn turns

/-- Every call keeps the account. -/
theorem serve (accounts : hub.Accounts moved) (call : Call) :
    (hub.serve call).client.Accounts (moved + hub.moved call) := by
  cases call with
  | createDestination destination => exact accounts.createDestination destination
  | createGroup group => exact accounts.createGroup group
  | deleteGroup path name => exact accounts.deleteGroup path name
  | deleteDestination path => exact accounts.deleteDestination path
  | shutDown => exact accounts.shutDown
  | create role => exact accounts.rest rfl (fun _ => rfl) (.create hub role)
  | openHandle handle => exact accounts.rest rfl (fun _ => rfl) (.openHandle hub handle)
  | lastError handle => exact accounts.rest rfl (fun _ => rfl) (.refl hub)
  | closeHandle handle => exact accounts.rest rfl (fun _ => rfl) (.closeHandle hub handle)
  | release handle => exact accounts.rest rfl (fun _ => rfl) (.release hub handle)
  | submit handle data => exact accounts.copies rfl rfl (.submit accounts.named handle data)
  | receiptReady ticket => exact accounts.rest rfl (fun _ => rfl) (.refl hub)
  | takeReceipt ticket => exact accounts.rest rfl (fun _ => rfl) (.refl hub)
  | write handle data => exact accounts.copies rfl rfl (.write accounts.named handle data)
  | request handle => exact accounts.rest rfl (putInto_request hub handle) (.request hub handle)
  | deliveryReady ticket => exact accounts.rest rfl (fun _ => rfl) (.refl hub)
  | takeDelivery ticket => exact accounts.rest rfl (fun _ => rfl) (.refl hub)
  | read handle => exact accounts.rest rfl (putInto_read hub handle) (.read hub handle)
  | ack delivery => exact accounts.turn (.ack hub delivery)
  | nack delivery => exact accounts.turn (.nack hub delivery)

theorem disown (accounts : hub.Accounts moved) :
    hub.disown.Accounts (moved + hub.moved .shutDown) := by
  obtain ⟨hnamed, handed, hbalances⟩ := accounts.shutDown
  exact ⟨hnamed.of_calm (.of_eq rfl rfl rfl), handed, hbalances.of_eq rfl rfl⟩

end Accounts

end Hub
end BrokerLoad
