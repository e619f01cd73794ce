import BrokerLoad.Proofs.Broker.Passing
import BrokerLoad.Proofs.Broker.Stories

/-!
# Deliveries are settled once

What a queue handed over is outstanding or was settled, each of it in one of the two places
(`Queue.Tallies`).  So a delivery is settled at most once, however often its reader tries.

Tokens come back after `2 ^ 64` deliveries, and a message that goes out under a token that is
still in use is displaced: neither is it outstanding, nor can it be settled.  Then a token means
more than one delivery, and is settled at most as often as it was given out.
-/

namespace BrokerLoad
namespace Queue

variable {δ : Type}

/-- The deliveries that are outstanding. -/
def outstanding (q : Queue δ) : List (Handover δ) :=
  q.unacked.map fun entry => ⟨entry.1, entry.2.data⟩

@[simp] theorem map_token_outstanding (q : Queue δ) :
    q.outstanding.map Handover.token = q.unacked.map Prod.fst := by
  rw [outstanding, List.map_map]
  rfl

/-! ## The tally of deliveries -/

/-- What a queue handed over was settled, or is outstanding, but for what was displaced. -/
structure Tallies (q : Queue δ) (story : List (Event δ)) (displaced : List (Handover δ)) :
    Prop where
  nextToken : q.nextToken = UInt64.ofNat ((handovers story).length + 1)
  /-- Tokens are given out one after another. -/
  tokens : (handovers story).map Handover.token = wordsAfter 0 (handovers story).length
  /-- One message is outstanding under a token. -/
  distinct : (q.unacked.map Prod.fst).Nodup
  accounted : (handovers story).Perm (settled story ++ q.outstanding ++ displaced)
  /-- Nothing is displaced until tokens come back. -/
  few : (handovers story).length < 2 ^ 64 → displaced = []

namespace Tallies

variable {q after : Queue δ} {story : List (Event δ)} {displaced : List (Handover δ)}
  {message : Message δ}

theorem create (maxDeliveries redeliverEvery : UInt32) :
    (Queue.create maxDeliveries redeliverEvery : Queue δ).Tallies [] [] where
  nextToken := rfl
  tokens := rfl
  distinct := .nil
  accounted := .nil
  few _ := rfl

/-! ### What it says -/

/-- The token that comes next was not given out before. -/
theorem nextToken_notMem (tallies : q.Tallies story displaced)
    (few : (handovers story).length + 1 ≤ 2 ^ 64) :
    q.nextToken ∉ (handovers story).map Handover.token := by
  have hnodup := nodup_wordsAfter 0 few
  rw [wordsAfter_succ, UInt64.zero_add, ← tallies.nextToken, ← tallies.tokens,
    List.nodup_append] at hnodup
  intro hmem
  exact hnodup.2.2 _ hmem _ (List.mem_singleton_self _) rfl

/-- A token is given out once. -/
theorem nodup_tokens (tallies : q.Tallies story displaced)
    (few : (handovers story).length ≤ 2 ^ 64) :
    ((handovers story).map Handover.token).Nodup :=
  tallies.tokens ▸ nodup_wordsAfter 0 few

theorem mem_handovers_of_outstanding (tallies : q.Tallies story displaced)
    {handover : Handover δ} (hmem : handover ∈ q.outstanding) : handover ∈ handovers story :=
  tallies.accounted.mem_iff.2 (List.mem_append_left _ (List.mem_append_right _ hmem))

/-- A token is settled no more often than it was given out. -/
theorem count_settled_le (tallies : q.Tallies story displaced) (token : UInt64) :
    ((settled story).map Handover.token).count token ≤
      ((handovers story).map Handover.token).count token := by
  have hcount := (tallies.accounted.map Handover.token).count_eq token
  rw [List.append_assoc, List.map_append, List.count_append] at hcount
  omega

/-! ### Steps -/

/-- A step that tells nothing of handovers and leaves what is outstanding alone. -/
theorem of_eq (tallies : q.Tallies story displaced) {more : List (Event δ)}
    (hnextToken : after.nextToken = q.nextToken) (hunacked : after.unacked = q.unacked)
    (hhanded : handovers more = []) (hsettled : settled more = []) :
    after.Tallies (story ++ more) displaced := by
  have houtstanding : after.outstanding = q.outstanding := by
    rw [outstanding, hunacked, outstanding]
  constructor
  · rw [hnextToken, handovers_append, hhanded, List.append_nil, tallies.nextToken]
  · rw [handovers_append, hhanded, List.append_nil, tallies.tokens]
  · exact hunacked ▸ tallies.distinct
  · rw [handovers_append, settled_append, hhanded, hsettled, houtstanding, List.append_nil,
      List.append_nil]
    exact tallies.accounted
  · rw [handovers_append, hhanded, List.append_nil]
    exact tallies.few

/-- A message is handed over. -/
theorem deliver (tallies : q.Tallies story displaced) (message : Message δ) :
    ∃ lost, (q.deliver message).2.Tallies (story ++ [.handed (q.deliver message).1])
      (lost ++ displaced) ∧ ((q.deliver message).2.outstanding ++ lost).Perm
        (q.outstanding ++ [(q.deliver message).1]) := by
  have hhanded : handovers (story ++ [.handed (q.deliver message).1]) =
      handovers story ++ [(q.deliver message).1] := handovers_append _ _
  have hsettled : settled (story ++ [.handed (q.deliver message).1]) = settled story :=
    (settled_append _ _).trans (List.append_nil _)
  have hlength := congrArg List.length hhanded
  rw [List.length_append, List.length_singleton] at hlength
  have hnext : (q.deliver message).2.nextToken =
      UInt64.ofNat ((handovers (story ++ [.handed (q.deliver message).1])).length + 1) := by
    show q.nextToken + 1 = _
    rw [hlength, tallies.nextToken, UInt64.ofNat_add ((handovers story).length + 1) 1]
    rfl
  have htokens : (handovers (story ++ [.handed (q.deliver message).1])).map Handover.token =
      wordsAfter 0 (handovers (story ++ [.handed (q.deliver message).1])).length := by
    rw [hlength, hhanded, List.map_append, List.map_singleton, wordsAfter_succ, UInt64.zero_add,
      tallies.tokens, ← tallies.nextToken]
    rfl
  -- The account is kept if it is known where the message is now.
  have haccounted : ∀ {lost}, ((q.deliver message).2.outstanding ++ lost).Perm
        (q.outstanding ++ [(q.deliver message).1]) →
      (handovers (story ++ [.handed (q.deliver message).1])).Perm
        (settled (story ++ [.handed (q.deliver message).1]) ++
          (q.deliver message).2.outstanding ++ (lost ++ displaced)) := by
    intro lost hlost
    rw [hhanded, hsettled, List.append_assoc, ← List.append_assoc _ lost]
    refine (tallies.accounted.append_right _).trans ?_
    simp only [List.append_assoc]
    refine List.Perm.append_left _ ((List.perm_append_comm.append_left _).trans ?_)
    rw [← List.append_assoc, ← List.append_assoc]
    exact hlost.symm.append_right _
  rcases q.unacked_deliver_cases message with ⟨hused, hunacked⟩ | ⟨-, hunacked⟩
  · have hlost : ((q.deliver message).2.outstanding ++ [(q.deliver message).1]).Perm
        (q.outstanding ++ [(q.deliver message).1]) := by
      rw [outstanding, hunacked, outstanding]
    refine ⟨_, ⟨hnext, htokens, distinct_deliver tallies.distinct message, haccounted hlost, ?_⟩,
      hlost⟩
    -- A token that is in use was given out, so the count is at its end.
    intro few
    refine absurd ?_ (tallies.nextToken_notMem (by omega))
    rw [← map_token_outstanding] at hused
    obtain ⟨handover, hmem, htoken⟩ := List.mem_map.1 hused
    exact htoken ▸ List.mem_map_of_mem (tallies.mem_handovers_of_outstanding hmem)
  · have hlost : ((q.deliver message).2.outstanding ++ []).Perm
        (q.outstanding ++ [(q.deliver message).1]) := by
      rw [outstanding, hunacked, List.map_append, List.append_nil]
      rfl
    exact ⟨[], ⟨hnext, htokens, distinct_deliver tallies.distinct message, haccounted hlost,
      fun few => tallies.few (by omega)⟩, hlost⟩

/-- An outstanding delivery is settled, one way or the other. -/
theorem settle (tallies : q.Tallies story displaced) {token : UInt64}
    (found : q.find? token = some message) (acks : UInt64) {event : Event δ}
    (hhanded : event.handed? = none) (hsettled : event.settled? = some ⟨token, message.data⟩) :
    Tallies { q.settle token with acks := acks } (story ++ [event]) displaced := by
  have hnothing : handovers (story ++ [event]) = handovers story := by
    rw [handovers_append, handovers, handovers, List.filterMap_cons_none hhanded]
    exact List.append_nil _
  have hone : settled (story ++ [event]) = settled story ++ [⟨token, message.data⟩] := by
    rw [settled_append, settled, settled, List.filterMap_cons_some hsettled]
    rfl
  have hout : q.outstanding.Perm (⟨token, message.data⟩ :: (q.settle token).outstanding) :=
    (perm_settle tallies.distinct found).map _
  constructor
  · rw [hnothing]
    exact tallies.nextToken
  · rw [hnothing, tallies.tokens]
  · exact distinct_settle tallies.distinct token
  · rw [hnothing, hone, List.append_assoc (settled story)]
    exact tallies.accounted.trans ((hout.append_left _).append_right _)
  · rw [hnothing]
    exact tallies.few

/-- A message is placed. -/
theorem places (tallies : q.Tallies story displaced) {placed : List (Event δ)}
    (places : q.Places message placed after) :
    ∃ displaced, after.Tallies (story ++ placed) displaced := by
  cases places with
  | queued => exact ⟨displaced, tallies.of_eq rfl rfl rfl rfl⟩
  | handed rest =>
    have hserved : Tallies { q with parked := rest } story displaced := { tallies with }
    obtain ⟨lost, hdelivered, -⟩ := hserved.deliver message
    exact ⟨_, hdelivered⟩

/-- Whatever happens in a queue, its tally is kept. -/
theorem passes (tallies : q.Tallies story displaced) {events : List (Event δ)}
    (passes : q.Passes events after) : ∃ displaced, after.Tallies (story ++ events) displaced := by
  have hcomes : ∀ (acks : UInt64) {token : UInt64} {message : Message δ} {event : Event δ}
      {placed : List (Event δ)}, q.find? token = some message → event.handed? = none →
      event.settled? = some ⟨token, message.data⟩ →
      Places { q.settle token with acks := acks } message placed after →
        ∃ displaced, after.Tallies (story ++ event :: placed) displaced := by
    intro acks token message event placed hfind hhanded hsettled hplaces
    rw [List.append_cons]
    exact (tallies.settle hfind acks hhanded hsettled).places hplaces
  cases passes with
  | rests rests => exact ⟨displaced, tallies.of_eq rests.nextToken rests.unacked rfl rfl⟩
  | shuts => exact ⟨displaced, tallies.of_eq rfl rfl rfl rfl⟩
  | puts data isOpen places =>
    have hput : q.Tallies (story ++ [.put data]) displaced := tallies.of_eq rfl rfl rfl rfl
    rw [List.append_cons]
    exact hput.places places
  | @reads message ready isOpen popped =>
    have hpopped : Tallies { q with ready := ready } story displaced := { tallies with }
    obtain ⟨lost, hdelivered, -⟩ := hpopped.deliver message
    exact ⟨_, hdelivered⟩
  | leaves found acks => exact ⟨_, tallies.settle found acks rfl rfl⟩
  | duplicates found acks spaced isOpen served places => exact hcomes acks found rfl rfl places
  | givesUp found enough => exact ⟨_, tallies.settle found q.acks rfl rfl⟩
  | forgets found shut => exact ⟨_, tallies.settle found q.acks rfl rfl⟩
  | returns found few isOpen served places => exact hcomes q.acks found rfl rfl places

end Tallies
end Queue
end BrokerLoad
