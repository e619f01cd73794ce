import BrokerLoad.Proofs.Broker.Naming
import BrokerLoad.Proofs.Broker.Turnover
import Mathlib.Algebra.BigOperators.Group.Finset.Piecewise

/-!
# What calls move

`Hub.moved` says what a call moves in each queue of a hub.  It is read off the call, its entries
in the chronicle and the hub before and after it.  `Hub.Balances` says that what was moved so
far accounts for what is in the queues, and for what the hub has counted: a counter of the hub
is the sum over all queues that ever were, as far as a word goes.

A calm step acts on one queue, or on several one after another (`Hub.Turns`).  What it moves in
a queue it counts, and all other queues are as they were.
-/

namespace BrokerLoad

/-- Whether a call settles a delivery. -/
def Call.isSettling : Call → Bool
  | .ack _ => true
  | .nack _ => true
  | _ => false

namespace Hub

/-! ## What is moved -/

/-- Where and how a call settles a delivery, if that was outstanding. -/
def settled? (hub : Hub) : Call → Option (Nat × Movement)
  | .ack delivery => if (hub.ack delivery).1 then some (delivery.queue, .acked) else none
  | .nack delivery => if (hub.nack delivery).1 then some (delivery.queue, .nacked) else none
  | _ => none

/-- How many messages of a queue are thrown away, because it was open and is shut down. -/
def discards (before after : Hub) (number : Nat) : Nat :=
  match before.queues[number]?, after.queues[number]? with
  | some queue, some later => if !queue.closed && later.closed then queue.ready.size else 0
  | _, _ => 0

/-- What a call moves in each queue.  What is put in is sent round again if the call settles a
delivery, and else it is the copy of an accepted write. -/
def moved (hub : Hub) (call : Call) (number : Nat) : Movement → Nat
  | .copied => if call.isSettling then 0 else (putInto number (hub.entries call)).length
  | .resent => if call.isSettling then (putInto number (hub.entries call)).length else 0
  | .acked => if hub.settled? call = some (number, .acked) then 1 else 0
  | .nacked => if hub.settled? call = some (number, .nacked) then 1 else 0
  | .discarded => hub.discards (hub.serve call).client number

/-- A sum over all queues that ever were. -/
def total (hub : Hub) (f : Nat → Nat) : Nat := ∑ number ∈ Finset.range hub.queues.size, f number

/-- What was moved accounts for what is in the queues and for what was counted. -/
structure Balances (hub : Hub) (moved : Nat → Movement → Nat) (handed : Nat → Nat) : Prop where
  queues : ∀ {number : Nat} {queue : Queue Bytes}, hub.queues[number]? = some queue →
    queue.Balances (moved number) (handed number) 0
  /-- Nothing was moved in queues that do not exist. -/
  numbers : ∀ number, hub.queues.size ≤ number → moved number = 0 ∧ handed number = 0
  deliveries : hub.counts.deliveries = UInt64.ofNat (hub.total handed)
  acks : hub.counts.acks = UInt64.ofNat (hub.total fun number => moved number .acked)
  nacks : hub.counts.nacks = UInt64.ofNat (hub.total fun number => moved number .nacked)
  redeliveries :
    hub.counts.redeliveries = UInt64.ofNat (hub.total fun number => moved number .resent)

/-- A hub counts what is moved in one queue, and what that queue hands over. -/
structure Counts (before after : HubCounts) (gain : Movement → Nat) (handed : Nat) : Prop where
  deliveries : after.deliveries = before.deliveries + UInt64.ofNat handed
  acks : after.acks = before.acks + UInt64.ofNat (gain .acked)
  nacks : after.nacks = before.nacks + UInt64.ofNat (gain .nacked)
  redeliveries : after.redeliveries = before.redeliveries + UInt64.ofNat (gain .resent)

theorem Counts.of_eq {before after : HubCounts} (deliveries : after.deliveries = before.deliveries)
    (acks : after.acks = before.acks) (nacks : after.nacks = before.nacks)
    (redeliveries : after.redeliveries = before.redeliveries) : Counts before after 0 0 where
  deliveries := deliveries.trans (UInt64.add_zero _).symm
  acks := acks.trans (UInt64.add_zero _).symm
  nacks := nacks.trans (UInt64.add_zero _).symm
  redeliveries := redeliveries.trans (UInt64.add_zero _).symm

theorem Counts.trans {before between after : HubCounts} {gain more : Movement → Nat}
    {handed further : Nat} (first : Counts before between gain handed)
    (second : Counts between after more further) :
    Counts before after (gain + more) (handed + further) where
  deliveries := by
    rw [second.deliveries, first.deliveries, UInt64.add_assoc, ← UInt64.ofNat_add]
  acks := by rw [second.acks, first.acks, UInt64.add_assoc, ← UInt64.ofNat_add]; rfl
  nacks := by rw [second.nacks, first.nacks, UInt64.add_assoc, ← UInt64.ofNat_add]; rfl
  redeliveries := by
    rw [second.redeliveries, first.redeliveries, UInt64.add_assoc, ← UInt64.ofNat_add]
    rfl

/-- A calm step that moves so much. -/
structure Turns (before after : Hub) (gain : Nat → Movement → Nat) : Prop where
  calm : before.Calm after
  balances : ∀ {moved handed}, before.Balances moved handed →
    ∃ handed', after.Balances (moved + gain) handed'

/-- A sum in which one term grows. -/
theorem sum_add_single {size number : Nat} (hlt : number < size) (f : Nat → Nat) (gain : Nat) :
    ∑ other ∈ Finset.range size, (f other + if other = number then gain else 0) =
      ∑ other ∈ Finset.range size, f other + gain := by
  rw [Finset.sum_add_distrib, Finset.sum_ite_eq', if_pos (Finset.mem_range.2 hlt)]

namespace Turns

variable {before between after : Hub} {gain more : Nat → Movement → Nat}

theorem trans (first : before.Turns between gain) (second : between.Turns after more) :
    before.Turns after (gain + more) where
  calm := first.calm.trans second.calm
  balances hbalances := by
    obtain ⟨handed, hbetween⟩ := first.balances hbalances
    rw [← add_assoc]
    exact second.balances hbetween

/-- Nothing is moved in a second step. -/
theorem trans_idle (first : before.Turns between gain) (second : between.Turns after 0) :
    before.Turns after gain :=
  add_zero gain ▸ first.trans second

/-- Nothing is moved by a step that leaves the queues alone. -/
theorem of_eq (hqueues : after.queues = before.queues)
    (htopology : after.topology = before.topology) (hclosed : after.closed = before.closed)
    (hcounts : Counts before.counts after.counts 0 0) : before.Turns after 0 where
  calm := .of_eq hqueues htopology hclosed
  balances {moved handed} balances := by
    have hadd : ∀ word : UInt64, word + UInt64.ofNat 0 = word := UInt64.add_zero
    have htotal : after.total = before.total := by
      funext f
      rw [total, total, hqueues]
    refine ⟨handed, ?_⟩
    rw [add_zero]
    exact {
      queues := hqueues ▸ balances.queues
      numbers := hqueues ▸ balances.numbers
      deliveries := by rw [hcounts.deliveries, hadd, htotal, balances.deliveries]
      acks := by rw [hcounts.acks, Pi.zero_apply, hadd, htotal, balances.acks]
      nacks := by rw [hcounts.nacks, Pi.zero_apply, hadd, htotal, balances.nacks]
      redeliveries := by
        rw [hcounts.redeliveries, Pi.zero_apply, hadd, htotal, balances.redeliveries] }

theorem refl (hub : Hub) : hub.Turns hub 0 := of_eq rfl rfl rfl (.of_eq rfl rfl rfl rfl)

/-- A step at one queue. -/
theorem of_queue {number : Nat} {queue changed : Queue Bytes} (gain : Movement → Nat)
    (already : Nat) (hfound : before.queues[number]? = some queue)
    (hqueues : after.queues = before.queues.setIfInBounds number changed)
    (hdesk : after.desk = before.desk) (hclosed : changed.closed = queue.closed)
    (hcounts : Counts before.counts after.counts gain already)
    (hbalances : ∀ {moved handed}, queue.Balances moved handed 0 →
      changed.Balances (moved + gain) (handed + already) 0) :
    before.Turns after (Pi.single number gain) where
  calm := .of_queue hfound hqueues hdesk hclosed
  balances {moved handed} balances := by
    have hlt := (Array.getElem?_eq_some_iff.1 hfound).1
    have hsize : after.queues.size = before.queues.size := by
      rw [hqueues, Array.size_setIfInBounds]
    have hmoved : ∀ way : Movement, after.total
          (fun other => (moved + Pi.single number gain : Nat → Movement → Nat) other way) =
        before.total (fun other => moved other way) + gain way := by
      intro way
      rw [total, total, hsize, ← sum_add_single hlt]
      refine Finset.sum_congr rfl fun other _ => ?_
      rw [Pi.add_apply, Pi.add_apply, Pi.single_apply, ite_apply, Pi.zero_apply]
    have hhanded : after.total (handed + Pi.single number already) =
        before.total handed + already := by
      rw [total, total, hsize, ← sum_add_single hlt]
      refine Finset.sum_congr rfl fun other _ => ?_
      rw [Pi.add_apply, Pi.single_apply]
    refine ⟨handed + Pi.single number already, {
      queues := fun {other found} hother => ?_
      numbers := fun other hother => ?_
      deliveries := by
        rw [hcounts.deliveries, balances.deliveries, hhanded, UInt64.ofNat_add]
      acks := by rw [hcounts.acks, balances.acks, hmoved, UInt64.ofNat_add]
      nacks := by rw [hcounts.nacks, balances.nacks, hmoved, UInt64.ofNat_add]
      redeliveries := by
        rw [hcounts.redeliveries, balances.redeliveries, hmoved, UInt64.ofNat_add] }⟩
    · rw [hqueues, Array.getElem?_setIfInBounds, if_pos hlt] at hother
      rw [Pi.add_apply, Pi.add_apply]
      by_cases hsame : number = other
      · subst hsame
        rw [if_pos rfl] at hother
        obtain rfl : changed = found := Option.some.inj hother
        rw [Pi.single_eq_same, Pi.single_eq_same]
        exact hbalances (balances.queues hfound)
      · rw [if_neg hsame] at hother
        rw [Pi.single_eq_of_ne (Ne.symm hsame), Pi.single_eq_of_ne (Ne.symm hsame), add_zero,
          Nat.add_zero]
        exact balances.queues hother
    · rw [hsize] at hother
      have hne : other ≠ number := fun heq => Nat.not_lt.2 hother (heq ▸ hlt)
      obtain ⟨hnone, hnothing⟩ := balances.numbers other hother
      rw [Pi.add_apply, Pi.add_apply, Pi.single_eq_of_ne hne, Pi.single_eq_of_ne hne, hnone,
        hnothing]
      exact ⟨rfl, rfl⟩

end Turns
end Hub
end BrokerLoad
