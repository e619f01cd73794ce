import BrokerLoad.Proofs.Broker.Accounts
import Mathlib.Algebra.BigOperators.Fin

/-!
# Nothing is lost between the counters of a hub

Whatever is done with a hub, its counters and its queues balance (`counters_conserved`).  The
sums are over all queues that ever were, those of deleted groups included.

* What was delivered was acknowledged or refused, or is outstanding.
* What was put in, as a copy of an accepted write or because it went round again, was
  delivered, or is ready, or was thrown away when its queue was shut down.
* The backlog of a group is what was put into its queue and not settled.
* A write through an open publisher is counted once, as accepted, throttled or rejected, and
  no other write is counted.

Counters are words, so sums are taken as words.  There is one more thing that a word can do:
the tokens of a queue come back after `2 ^ 64` deliveries, and a message that goes out under a
token that is still in use is *displaced*.  It was delivered, but can neither be settled nor
is it outstanding.  No message is displaced in a queue that fewer messages were put into.
-/

namespace BrokerLoad
namespace Hub

/-! ## Operations -/

/-- What can be done with a hub: it serves a call, or its owner closes it and lets go of it. -/
inductive Operation where
  | serve (call : Call)
  | disown

def operate (hub : Hub) : Operation → Hub
  | .serve call => (hub.serve call).client
  | .disown => hub.disown

/-- The hub after several operations. -/
def afterAll (hub : Hub) (operations : List Operation) : Hub := operations.foldl operate hub

/-- What several operations move in each queue. -/
def movedIn (hub : Hub) : List Operation → Nat → Movement → Nat
  | [] => 0
  | .serve call :: operations => hub.moved call + (hub.serve call).client.movedIn operations
  | .disown :: operations => hub.moved .shutDown + hub.disown.movedIn operations

theorem accounts_afterAll {hub : Hub} {moved : Nat → Movement → Nat} (accounts : hub.Accounts moved)
    (operations : List Operation) :
    (hub.afterAll operations).Accounts (moved + hub.movedIn operations) := by
  induction operations generalizing hub moved with
  | nil => exact (add_zero moved).symm ▸ accounts
  | cons operation rest ih =>
    cases operation with
    | serve call =>
      rw [movedIn, ← add_assoc]
      exact ih (accounts.serve call)
    | disown =>
      rw [movedIn, ← add_assoc]
      exact ih accounts.disown

/-! ## Counts of writes -/

/-- One of the counts of writes grows by one, by the status of the receipt. -/
inductive OneMore (before after : HubCounts) : WriteStatus → Prop
  | accepted (_ : after.accepted = before.accepted + 1)
      (_ : after.throttled = before.throttled) (_ : after.rejected = before.rejected) :
      OneMore before after .ok
  | throttled (_ : after.accepted = before.accepted)
      (_ : after.throttled = before.throttled + 1) (_ : after.rejected = before.rejected) :
      OneMore before after .throttled
  | rejected (_ : after.accepted = before.accepted)
      (_ : after.throttled = before.throttled) (_ : after.rejected = before.rejected + 1) :
      OneMore before after .failed

/-- A write through an open publisher is counted once. -/
theorem oneMore_write {hub : Hub} {handle : Handle} (hopen : hub.IsOpenPublisher handle)
    (data : Bytes) : OneMore hub.counts (hub.write handle data).2.counts
      (hub.write handle data).1.status := by
  rcases hub.write_cases handle data with ⟨path, -, hwrite⟩ | ⟨hnot, -⟩
  · rw [hwrite, publish]
    split
    · exact .rejected rfl rfl rfl
    · split
      · exact .rejected rfl rfl rfl
      next groups hgroups =>
        dsimp only
        split
        · exact .throttled rfl rfl rfl
        · have hdesk := desk_pushAll { hub with writes := hub.writes + 1 } data
            (groups.map Prod.snd)
          exact .accepted (congrArg (fun desk => desk.accepted + 1) hdesk)
            (congrArg Desk.throttled hdesk) (congrArg Desk.rejected hdesk)
  · exact absurd hopen hnot

/-! ## Conservation -/

/-- How many deliveries are outstanding, in all queues. -/
def outstanding (hub : Hub) : Nat :=
  (hub.queues.toList.map fun queue => queue.unacked.length).sum

/-- How many messages are ready, in all queues. -/
def waiting (hub : Hub) : Nat := (hub.queues.toList.map fun queue => queue.ready.size).sum

/-- Nothing is lost between the counters of a hub and its queues, all that ever were.  The
deliveries *displaced* went out under a token that was in use. -/
structure IsConserved (hub : Hub) (moved : Nat → Movement → Nat) (displaced : Nat → Nat) :
    Prop where
  /-- Counters are sums over all queues. -/
  acks : hub.counts.acks = UInt64.ofNat (hub.total fun number => moved number .acked)
  nacks : hub.counts.nacks = UInt64.ofNat (hub.total fun number => moved number .nacked)
  redeliveries :
    hub.counts.redeliveries = UInt64.ofNat (hub.total fun number => moved number .resent)
  /-- What was delivered was acknowledged or refused, or is outstanding. -/
  delivered : hub.counts.deliveries = hub.counts.acks + hub.counts.nacks +
    UInt64.ofNat (hub.outstanding + hub.total displaced)
  /-- What was put in was delivered, or is ready, or was thrown away at shutdown. -/
  put : UInt64.ofNat (hub.total fun number => moved number .copied) + hub.counts.redeliveries =
    hub.counts.deliveries +
      UInt64.ofNat (hub.waiting + hub.total fun number => moved number .discarded)
  /-- The same in each queue, in full. -/
  queues : ∀ {number : Nat} {queue : Queue Bytes}, hub.queues[number]? = some queue →
    moved number .copied + moved number .resent =
      queue.unacked.length + displaced number + moved number .acked + moved number .nacked +
        queue.ready.size + moved number .discarded
  /-- What is in a queue that can be reached was put in and not settled. -/
  backlog : ∀ {path group : String} {number : Nat}, hub.queueNumber? path group = some number →
    hub.backlog path group + displaced number + moved number .acked + moved number .nacked =
      moved number .copied + moved number .resent
  /-- Tokens come back after `2 ^ 64` deliveries. -/
  displaced : ∀ number, moved number .copied + moved number .resent < 2 ^ 64 →
    displaced number = 0
  /-- A write through an open publisher is counted once, as what became of it. -/
  counted : ∀ {handle : Handle} (data : Bytes), hub.IsOpenPublisher handle →
    OneMore hub.counts (hub.serve (.write handle data)).client.counts
      (hub.write handle data).1.status ∧
    OneMore hub.counts (hub.serve (.submit handle data)).client.counts
      (hub.write handle data).1.status
  /-- A write through any other handle is not counted. -/
  uncounted : ∀ {handle : Handle} (data : Bytes), ¬ hub.IsOpenPublisher handle →
    (hub.serve (.write handle data)).client.counts = hub.counts ∧
    (hub.serve (.submit handle data)).client.counts = hub.counts

theorem total_eq_sum (hub : Hub) {f : Nat → Nat} {g : Queue Bytes → Nat}
    (hsame : ∀ {number : Nat} {queue : Queue Bytes}, hub.queues[number]? = some queue →
      f number = g queue) : hub.total f = (hub.queues.toList.map g).sum := by
  rw [total, ← Array.length_toList, Finset.sum_range, ← Fin.sum_univ_fun_getElem]
  exact Finset.sum_congr rfl fun i _ => hsame (by simp)

theorem total_add (hub : Hub) (f g : Nat → Nat) :
    hub.total (fun number => f number + g number) = hub.total f + hub.total g :=
  Finset.sum_add_distrib

theorem total_congr (hub : Hub) {f g : Nat → Nat}
    (hsame : ∀ {number : Nat} {queue : Queue Bytes}, hub.queues[number]? = some queue →
      f number = g number) : hub.total f = hub.total g :=
  Finset.sum_congr rfl fun _ hnumber =>
    hsame (Array.getElem?_eq_getElem (Finset.mem_range.1 hnumber))

/-- How many deliveries are outstanding in a queue, if there is one of the number. -/
def outstandingIn (hub : Hub) (number : Nat) : Nat :=
  ((hub.queues[number]?).map fun queue => queue.unacked.length).getD 0

theorem outstandingIn_eq {hub : Hub} {number : Nat} {queue : Queue Bytes}
    (hqueue : hub.queues[number]? = some queue) :
    hub.outstandingIn number = queue.unacked.length := by
  rw [outstandingIn, hqueue]
  rfl

/-- A group that can be reached has an open queue, and that is its backlog. -/
theorem IsNamed.backlog_eq {hub : Hub} (named : hub.IsNamed) {path group : String} {number : Nat}
    (hnumber : hub.queueNumber? path group = some number) : ∃ queue,
      hub.queues[number]? = some queue ∧ queue.closed = false ∧
        hub.backlog path group = queue.backlog := by
  have hopen : hub.closed = false := by
    rw [queueNumber?] at hnumber
    simpa using (Option.ite_none_left_eq_some.1 hnumber).1
  have hreachable : number ∈ hub.reachable := by
    rw [reachable_eq_map_places]
    exact List.mem_map.2 ⟨_, mem_places_of_queueNumber? hnumber, rfl⟩
  obtain ⟨queue, hqueue, hisOpen⟩ := named.isOpen hopen number hreachable
  refine ⟨queue, hqueue, hisOpen, ?_⟩
  rw [backlog, hnumber, Option.bind_some, hqueue]
  rfl

namespace Balances

variable {hub : Hub} {moved : Nat → Movement → Nat} {handed : Nat → Nat}

/-- How many deliveries of a queue are neither outstanding nor settled. -/
def displaced (_ : hub.Balances moved handed) (number : Nat) : Nat :=
  handed number - (hub.outstandingIn number + moved number .acked + moved number .nacked)

/-- What a queue handed over was settled, or is outstanding, or is displaced. -/
theorem handed_eq (balances : hub.Balances moved handed) {number : Nat} {queue : Queue Bytes}
    (hqueue : hub.queues[number]? = some queue) : handed number =
      moved number .acked + moved number .nacked +
        (hub.outstandingIn number + balances.displaced number) := by
  have hsettled := (balances.queues hqueue).settled
  rw [displaced, outstandingIn_eq hqueue]
  omega

/-- Nothing is displaced before tokens come back. -/
theorem displaced_eq_zero (balances : hub.Balances moved handed) {number : Nat}
    (few : moved number .copied + moved number .resent < 2 ^ 64) :
    balances.displaced number = 0 := by
  cases hqueue : hub.queues[number]? with
  | none =>
    have hnothing := (balances.numbers number (Array.getElem?_eq_none_iff.1 hqueue)).2
    rw [displaced, hnothing, Nat.zero_sub]
  | some queue =>
    have hput := (balances.queues hqueue).put
    have hkept := (balances.queues hqueue).kept (by omega)
    rw [displaced, outstandingIn_eq hqueue]
    omega

/-- What was handed over, in all queues. -/
theorem total_handed (balances : hub.Balances moved handed) : hub.total handed =
    hub.total (fun number => moved number .acked) + hub.total (fun number => moved number .nacked) +
      (hub.outstanding + hub.total balances.displaced) := by
  have houtstanding : hub.total hub.outstandingIn = hub.outstanding :=
    hub.total_eq_sum outstandingIn_eq
  rw [hub.total_congr balances.handed_eq, total_add, total_add, total_add, houtstanding]

/-- What was put in, in all queues. -/
theorem total_put (balances : hub.Balances moved handed) :
    hub.total (fun number => moved number .copied) +
      hub.total (fun number => moved number .resent) =
    hub.total handed + (hub.waiting + hub.total fun number => moved number .discarded) := by
  have hwaiting : hub.total (fun number => moved number .copied + moved number .resent -
      handed number - moved number .discarded) = hub.waiting :=
    hub.total_eq_sum fun hqueue => by
      have hput := (balances.queues hqueue).put
      omega
  rw [← total_add, ← hwaiting, ← total_add, ← total_add]
  refine hub.total_congr fun hqueue => ?_
  have hput := (balances.queues hqueue).put
  omega

end Balances

/-- An account leaves nothing out. -/
theorem Accounts.isConserved {hub : Hub} {moved : Nat → Movement → Nat}
    (accounts : hub.Accounts moved) : ∃ displaced, hub.IsConserved moved displaced := by
  obtain ⟨named, handed, balances⟩ := accounts
  refine ⟨balances.displaced, {
    acks := balances.acks
    nacks := balances.nacks
    redeliveries := balances.redeliveries
    delivered := ?_
    put := ?_
    queues := fun {number queue} hqueue => ?_
    backlog := fun {path group number} hnumber => ?_
    displaced := fun number => balances.displaced_eq_zero
    counted := fun data hopen => ⟨oneMore_write hopen data, oneMore_write hopen data⟩
    uncounted := fun {handle} data hnot => ?_ }⟩
  · rw [balances.deliveries, balances.acks, balances.nacks, balances.total_handed,
      ← UInt64.ofNat_add, ← UInt64.ofNat_add]
  · rw [balances.deliveries, balances.redeliveries, ← UInt64.ofNat_add, ← UInt64.ofNat_add,
      balances.total_put]
  · have hput := (balances.queues hqueue).put
    have hhanded := balances.handed_eq hqueue
    rw [outstandingIn_eq hqueue] at hhanded
    omega
  · obtain ⟨queue, hqueue, hopen, hbacklog⟩ := named.backlog_eq hnumber
    have hput := (balances.queues hqueue).put
    have hwhole := (balances.queues hqueue).whole hopen
    have hhanded := balances.handed_eq hqueue
    rw [outstandingIn_eq hqueue] at hhanded
    rw [hbacklog, Queue.backlog]
    omega
  · rcases hub.write_cases handle data with ⟨path, ⟨error, hhandle⟩, -⟩ | ⟨-, -, hwrite⟩
    · exact absurd ⟨path, error, hhandle⟩ hnot
    · have hcounts : (hub.write handle data).2.counts = hub.counts := congrArg counts hwrite
      exact ⟨hcounts, hcounts⟩

/-- Nothing is lost, whatever is done with a hub. -/
theorem counters_conserved (throttleEvery redeliverEvery : UInt32) (operations : List Operation) :
    ∃ displaced, (afterAll { throttleEvery, redeliverEvery } operations).IsConserved
      (movedIn { throttleEvery, redeliverEvery } operations) displaced := by
  have haccounts := accounts_afterAll (.fresh throttleEvery redeliverEvery) operations
  rw [zero_add] at haccounts
  exact haccounts.isConserved

/-- Of three messages one is acknowledged and comes again, one is outstanding when the group is
deleted, and the other two that are ready then are thrown away.  The one that is outstanding
can still be refused, because the consumer is open. -/
example :
    let operations := ([.createDestination { path := "orders" },
      .createGroup { destination := "orders", name := "billing" },
      .create (.publisher "orders"), .openHandle 0,
      .create (.consumer "orders" "billing" defaultPrefetch), .openHandle 1,
      .write 0 [7], .write 0 [8], .write 0 [9], .read 1,
      .ack { payload := [7], queue := 0, token := 1 }, .read 1, .deleteGroup "orders" "billing",
      .nack { payload := [8], queue := 0, token := 2 }] : List Call).map .serve
    let hub : Hub := { redeliverEvery := 1 }
    hub.movedIn operations 0 .copied = 3 ∧ hub.movedIn operations 0 .resent = 1 ∧
      hub.movedIn operations 0 .acked = 1 ∧ hub.movedIn operations 0 .nacked = 1 ∧
      hub.movedIn operations 0 .discarded = 2 ∧ (hub.afterAll operations).counts.deliveries = 2 ∧
      (hub.afterAll operations).outstanding = 0 := by
  decide +kernel

end Hub
end BrokerLoad
