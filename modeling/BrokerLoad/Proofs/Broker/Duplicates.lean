import BrokerLoad.Proofs.Broker.Accounts
import BrokerLoad.Proofs.Broker.Alike
import BrokerLoad.Proofs.Broker.Pace

/-!
# Duplicates and acknowledgements

A queue makes a duplicate with every so-manieth acknowledgement, so the duplicates that it
made can be told from the number of acknowledgements, whatever else was done with it in the
meantime (`Queue.Duplicates`).  This is so as long as the queue is open, because it takes
nothing in after that, and as long as no delivery was refused, because what is refused goes
round again as well.

What was acknowledged last had been put in before, when there were the duplicates of the
acknowledgements before it only.  So a queue whose last acknowledgement made a duplicate is not
empty.
-/

namespace BrokerLoad
namespace Queue

variable {δ : Type} {q after : Queue δ}

/-! ## Acknowledgements -/

/-- What an acknowledgement does. -/
structure Acknowledges (q after : Queue δ) (again : Nat) : Prop where
  /-- It is of something outstanding. -/
  outstanding : 0 < q.unacked.length
  redeliverEvery : after.redeliverEvery = q.redeliverEvery
  acks : after.acks = q.acks + 1
  opened : after.closed = false → q.closed = false
  /-- It sends what it acknowledges round again, if it is its turn. -/
  again : q.closed = false → again = if q.duplicates (q.acks + 1) then 1 else 0

theorem acknowledges_of_ack {token : UInt64} {settlement : Settlement δ}
    (hack : q.ack token = some (settlement, after)) :
    q.Acknowledges after (q.again token (some (settlement, after))).length := by
  rw [ack, Option.map_eq_some_iff] at hack
  obtain ⟨message, hfind, hafter⟩ := hack
  have hsome : 0 < q.unacked.length := List.length_pos_of_mem (mem_unacked_of_find? hfind)
  dsimp only at hafter
  split at hafter
  next hagain =>
    have halike := Alike.push { q.settle token with acks := q.acks + 1 } message
    cases hafter
    refine ⟨hsome, halike.redeliverEvery, halike.acks, halike.opened, fun _ => ?_⟩
    have hturn : q.duplicates (q.acks + 1) = true := (Bool.and_eq_true_iff.1 hagain).2
    rw [if_pos hturn, again, hfind]
    rfl
  next hnot =>
    cases hafter
    refine ⟨hsome, rfl, rfl, id, fun hopen => ?_⟩
    have hturn : ¬ q.duplicates (q.acks + 1) = true := fun hturn =>
      hnot (Bool.and_eq_true_iff.2 ⟨Bool.not_eq_true' _ ▸ hopen, hturn⟩)
    exact (if_neg hturn).symm

/-! ## Duplicates -/

/-- Which acknowledgements bring a duplicate. -/
theorem duplicates_ofNat_succ (q : Queue δ) {number : Nat} (few : number + 1 < 2 ^ 64) :
    q.duplicates (UInt64.ofNat (number + 1)) = decide (q.redeliverEvery.toNat ∣ number + 1) := by
  by_cases hnever : q.redeliverEvery = 0
  · have hnone : ¬ q.redeliverEvery.toNat ∣ number + 1 := by
      rw [hnever]
      exact fun hdvd => Nat.succ_ne_zero number (Nat.zero_dvd.1 hdvd)
    rw [decide_eq_false hnone, duplicates, hnever]
    rfl
  · rw [Bool.eq_iff_iff, decide_eq_true_iff, ← Hub.paceAt_eq_throttled_iff hnever few]
    simp [duplicates, Hub.paceAt, hnever]

/-- What went round again in a queue is one duplicate for every so many acknowledgements. -/
structure Duplicates (q : Queue δ) (every : UInt32) (moved : Movement → Nat) : Prop where
  redeliverEvery : q.redeliverEvery = every
  acks : q.acks = UInt64.ofNat (moved .acked)
  /-- Every so-manieth acknowledgement made one. -/
  resent : q.closed = false → moved .nacked = 0 → moved .acked < 2 ^ 64 →
    moved .resent = moved .acked / every.toNat
  /-- What was acknowledged last had been put in before. -/
  before : q.closed = false → moved .nacked = 0 → moved .acked < 2 ^ 64 → 0 < moved .acked →
    moved .acked ≤ moved .copied + (moved .acked - 1) / every.toNat

namespace Duplicates

variable {every : UInt32} {moved gain : Movement → Nat}

/-- In a new queue there were neither. -/
theorem of_new (hevery : q.redeliverEvery = every) (hacks : q.acks = 0) (hacked : moved .acked = 0)
    (hresent : moved .nacked = 0 → moved .resent = 0) : q.Duplicates every moved where
  redeliverEvery := hevery
  acks := by rw [hacks, hacked]; rfl
  resent _ hnacked _ := by rw [hresent hnacked, hacked, Nat.zero_div]
  before _ _ _ hsome := absurd hacked (Nat.ne_of_gt hsome)

/-- An operation that acknowledges nothing makes no duplicate. -/
theorem of_alike (duplicates : q.Duplicates every moved) (alike : q.Alike after)
    (hacked : gain .acked = 0) (hresent : gain .nacked = 0 → gain .resent = 0) :
    after.Duplicates every (moved + gain) where
  redeliverEvery := alike.redeliverEvery.trans duplicates.redeliverEvery
  acks := by rw [alike.acks, duplicates.acks, Pi.add_apply, hacked, Nat.add_zero]
  resent hopen hnacked few := by
    rw [Pi.add_apply] at hnacked few
    rw [Pi.add_apply, Pi.add_apply, hacked, hresent (by omega), Nat.add_zero, Nat.add_zero]
    exact duplicates.resent (alike.opened hopen) (by omega) (by omega)
  before hopen hnacked few hsome := by
    simp only [Pi.add_apply, hacked, Nat.add_zero] at hnacked few hsome ⊢
    have hbefore := duplicates.before (alike.opened hopen) (by omega) few hsome
    omega

/-- An acknowledgement makes a duplicate if it is its turn. -/
theorem ack (duplicates : q.Duplicates every moved) {handed again : Nat}
    (balances : q.Balances moved handed 0) (acknowledges : q.Acknowledges after again) :
    after.Duplicates every (moved + (Pi.single .acked 1 + Pi.single .resent again)) := by
  have hacks : q.acks + 1 = UInt64.ofNat (moved .acked + 1) := by
    rw [duplicates.acks, UInt64.ofNat_add]
    rfl
  generalize hgain : (Pi.single Movement.acked 1 + Pi.single Movement.resent again :
    Movement → Nat) = gain
  have hacked : (moved + gain) .acked = moved .acked + 1 := by simp [← hgain]
  have hresent : (moved + gain) .resent = moved .resent + again := by simp [← hgain]
  have hnacked : (moved + gain) .nacked = moved .nacked := by simp [← hgain]
  have hcopied : (moved + gain) .copied = moved .copied := by simp [← hgain]
  constructor
  case redeliverEvery => exact acknowledges.redeliverEvery.trans duplicates.redeliverEvery
  case acks => rw [acknowledges.acks, hacks, hacked]
  case resent =>
    rw [hnacked, hacked, hresent]
    intro hopen hunrefused few
    have hturn := acknowledges.again (acknowledges.opened hopen)
    rw [hacks, duplicates_ofNat_succ q few, duplicates.redeliverEvery] at hturn
    rw [hturn, Nat.succ_div,
      duplicates.resent (acknowledges.opened hopen) hunrefused (by omega)]
    simp only [decide_eq_true_iff]
  case before =>
    -- What is acknowledged was outstanding, so it was put in and is none of those before it.
    rw [hnacked, hacked, hcopied]
    intro hopen hunrefused few _
    have hbefore := duplicates.resent (acknowledges.opened hopen) hunrefused (by omega)
    have hput := balances.put
    have hsettled := balances.settled
    have hwhole := balances.whole (acknowledges.opened hopen)
    have hsome := acknowledges.outstanding
    rw [Nat.add_sub_cancel]
    omega

end Duplicates
end Queue

namespace Hub

/-! ## Every call -/

/-- What goes round again in a queue was outstanding there. -/
theorem putInto_again (hub : Hub) (delivery : Delivery)
    (settle : Queue Bytes → Option (Queue.Settlement Bytes × Queue Bytes)) (number : Nat) :
    putInto number (hub.again delivery settle) = [] ∨
      (number = delivery.queue ∧ ((hub.queueOf? delivery).bind settle).isSome = true) := by
  by_cases hnumber : number = delivery.queue
  · cases hsettled : (hub.queueOf? delivery).bind settle with
    | none =>
      rw [again_eq_nil hsettled]
      exact .inl rfl
    | some pair => exact .inr ⟨hnumber, rfl⟩
  · refine .inl (nil_of_number_ne number fun entry hentry => ?_).1
    rw [again] at hentry
    split at hentry
    · obtain ⟨data, -, rfl⟩ := List.mem_map.1 hentry
      exact Ne.symm hnumber
    · cases hentry

/-- Only what is settled goes round again. -/
theorem resent_of_not_settled {hub : Hub} {call : Call} {number : Nat}
    (hacked : hub.moved call number .acked = 0) (hnacked : hub.moved call number .nacked = 0) :
    hub.moved call number .resent = 0 := by
  cases call with
  | ack delivery =>
    rcases hub.putInto_again delivery (fun queue => queue.ack delivery.token) number with
      hnone | ⟨rfl, hsome⟩
    · exact congrArg List.length hnone
    · obtain ⟨pair, hpair⟩ := Option.isSome_iff_exists.1 hsome
      have hack : (hub.ack delivery).1 = true := by rw [ack, hpair]
      simp [moved, settled?, hack] at hacked
  | nack delivery =>
    rcases hub.putInto_again delivery (fun queue => queue.nack delivery.token) number with
      hnone | ⟨rfl, hsome⟩
    · exact congrArg List.length hnone
    · obtain ⟨pair, hpair⟩ := Option.isSome_iff_exists.1 hsome
      have hnack : (hub.nack delivery).1 = true := by rw [nack, hpair]
      simp [moved, settled?, hnack] at hnacked
  | _ => rfl

/-- What went round again in each queue of a hub is its duplicates. -/
structure Duplicates (hub : Hub) (moved : Nat → Movement → Nat) : Prop where
  queues : ∀ {number : Nat} {queue : Queue Bytes}, hub.queues[number]? = some queue →
    queue.Duplicates hub.redeliverEvery (moved number)

namespace Duplicates

theorem fresh (throttleEvery redeliverEvery : UInt32) :
    Duplicates { throttleEvery, redeliverEvery } 0 where
  queues := nofun

variable {hub after : Hub} {moved gain : Nat → Movement → Nat} {handed : Nat → Nat}

/-- A step that acknowledges nothing makes no duplicate. -/
theorem of_alike (duplicates : hub.Duplicates moved) (balances : hub.Balances moved handed)
    (alike : hub.Alike after) (hacked : ∀ number, gain number .acked = 0)
    (hresent : ∀ number, gain number .nacked = 0 → gain number .resent = 0) :
    after.Duplicates (moved + gain) := by
  refine ⟨fun {number queue} hqueue => ?_⟩
  rw [alike.redeliverEvery, Pi.add_apply]
  rcases alike.queues hqueue with ⟨earlier, hearlier, halike⟩ | ⟨hnew, hevery, hacks⟩
  · exact (duplicates.queues hearlier).of_alike halike (hacked number) (hresent number)
  · rw [(balances.numbers number hnew).1, zero_add]
    exact .of_new hevery hacks (hacked number) (hresent number)

/-- A delivery is acknowledged. -/
theorem ack (duplicates : hub.Duplicates moved) (balances : hub.Balances moved handed)
    (delivery : Delivery) :
    (hub.serve (.ack delivery)).client.Duplicates (moved + hub.moved (.ack delivery)) := by
  cases hsettled : (hub.queueOf? delivery).bind fun queue => queue.ack delivery.token with
  | none =>
    have hack : hub.ack delivery = (false, hub) := by
      rw [Hub.ack, hsettled]
    have hmoved : ∀ number, hub.moved (.ack delivery) number .acked = 0 := by
      intro number
      simp [Hub.moved, settled?, hack]
    have hresent : ∀ number, hub.moved (.ack delivery) number .nacked = 0 →
        hub.moved (.ack delivery) number .resent = 0 :=
      fun number => resent_of_not_settled (hmoved number)
    refine duplicates.of_alike balances ?_ hmoved hresent
    exact .of_eq (congrArg redeliverEvery (congrArg Prod.snd hack))
      (congrArg Hub.queues (congrArg Prod.snd hack))
  | some pair =>
    obtain ⟨settlement, changed⟩ := pair
    obtain ⟨queue, hqueue, hack⟩ := Option.bind_eq_some_iff.1 hsettled
    have hfound := found_of_queueOf? hqueue
    have hserved : hub.ack delivery = (true, ({ hub with counts := { hub.counts with
        acks := hub.counts.acks + 1 } }.putQueue delivery.queue changed).countSettlement
          delivery.queue settlement) := by
      rw [Hub.ack, hsettled]
    have hentries : hub.entries (.ack delivery) =
        (queue.again delivery.token (some (settlement, changed))).map (.put delivery.queue) := by
      rw [entries, again, hqueue]
      dsimp only
      rw [hack]
    have hmoved := moved_of_settled rfl (.inl rfl) (by rw [settled?, hserved]; rfl) hentries
      (Turns.ack hub delivery).calm
    have hevery : (hub.serve (.ack delivery)).client.redeliverEvery = hub.redeliverEvery :=
      (congrArg redeliverEvery (congrArg Prod.snd hserved)).trans
        (redeliverEvery_countSettlement _ _ _)
    have hqueues : (hub.serve (.ack delivery)).client.queues =
        hub.queues.setIfInBounds delivery.queue changed :=
      (congrArg Hub.queues (congrArg Prod.snd hserved)).trans (queues_countSettlement _ _ _)
    refine ⟨fun {number found} hnumber => ?_⟩
    rw [hevery, hmoved, Pi.add_apply]
    rw [hqueues, Array.getElem?_setIfInBounds,
      if_pos (Array.getElem?_eq_some_iff.1 hfound).1] at hnumber
    split at hnumber
    next hsame =>
      cases hnumber
      subst hsame
      rw [Pi.single_eq_same]
      exact (duplicates.queues hfound).ack (balances.queues hfound) (Queue.acknowledges_of_ack hack)
    next hother =>
      rw [Pi.single_eq_of_ne (Ne.symm hother), add_zero]
      exact duplicates.queues hnumber

/-- Every call keeps to it. -/
theorem serve (duplicates : hub.Duplicates moved) (balances : hub.Balances moved handed)
    (call : Call) : (hub.serve call).client.Duplicates (moved + hub.moved call) := by
  by_cases hcall : ∃ delivery, call = .ack delivery
  · obtain ⟨delivery, rfl⟩ := hcall
    exact duplicates.ack balances delivery
  · have hacked : ∀ number, hub.moved call number .acked = 0 := by
      intro number
      cases call with
      | ack delivery => exact absurd ⟨delivery, rfl⟩ hcall
      | nack delivery =>
        simp only [Hub.moved, settled?]
        split <;> simp
      | _ => rfl
    exact duplicates.of_alike balances (.serve hub fun delivery heq => hcall ⟨delivery, heq⟩) hacked
      fun number => resent_of_not_settled (hacked number)

end Duplicates
end Hub
end BrokerLoad
