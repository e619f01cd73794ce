import BrokerLoad.Broker.Queue
import Mathlib.Data.List.Nodup

/-!
# What is outstanding in a queue

A message that was handed over is outstanding under a token until it is settled.  What is found
under a token is one of the outstanding messages; settling it takes it out, and nothing else if
tokens are distinct; and a message that is handed over becomes outstanding unless its token is in
use.
-/

namespace BrokerLoad
namespace Queue

variable {δ : Type} {q : Queue δ} {token : UInt64} {message : Message δ}

theorem mem_unacked_of_find? (found : q.find? token = some message) :
    (token, message) ∈ q.unacked := by
  obtain ⟨before, behind, hsplit, -⟩ := List.lookup_eq_some_iff.1 found
  rw [hsplit]
  exact List.mem_append_right _ List.mem_cons_self

/-- A token is in use if it is that of an outstanding delivery. -/
theorem isSome_find?_iff : (q.find? token).isSome ↔ token ∈ q.unacked.map Prod.fst := by
  constructor
  · intro hsome
    obtain ⟨message, hfind⟩ := Option.isSome_iff_exists.1 hsome
    exact List.mem_map.2 ⟨_, mem_unacked_of_find? hfind, rfl⟩
  · intro hmem
    obtain ⟨entry, hentry, rfl⟩ := List.mem_map.1 hmem
    rw [Option.isSome_iff_ne_none]
    intro hnone
    rw [find?, List.lookup_eq_none_iff] at hnone
    exact bne_iff_ne.1 (hnone entry hentry) rfl

/-- What is settled is taken out, and nothing else is. -/
theorem perm_settle (distinct : (q.unacked.map Prod.fst).Nodup)
    (found : q.find? token = some message) :
    q.unacked.Perm ((token, message) :: (q.settle token).unacked) := by
  obtain ⟨before, behind, hsplit, -⟩ := List.lookup_eq_some_iff.1 found
  rw [hsplit, List.map_append, List.map_cons, List.nodup_middle, List.nodup_cons,
    ← List.map_append] at distinct
  have hrest : (q.settle token).unacked = before ++ behind := by
    show q.unacked.filter _ = _
    rw [hsplit, List.filter_append, List.filter_cons_of_neg (by simp), ← List.filter_append,
      List.filter_eq_self]
    intro entry hentry
    refine decide_eq_true fun heq => distinct.1 ?_
    exact heq ▸ List.mem_map.2 ⟨entry, hentry, rfl⟩
  rw [hrest, hsplit]
  exact List.perm_middle

/-- Tokens stay distinct. -/
theorem distinct_settle (distinct : (q.unacked.map Prod.fst).Nodup) (token : UInt64) :
    ((q.settle token).unacked.map Prod.fst).Nodup :=
  distinct.sublist (List.filter_sublist.map _)

/-- A message that is handed over becomes outstanding, unless its token is in use. -/
theorem unacked_deliver_cases (q : Queue δ) (message : Message δ) :
    (q.nextToken ∈ q.unacked.map Prod.fst ∧ (q.deliver message).2.unacked = q.unacked) ∨
    (q.nextToken ∉ q.unacked.map Prod.fst ∧ (q.deliver message).2.unacked =
      q.unacked ++ [(q.nextToken, { message with deliveries := message.deliveries + 1 })]) := by
  rw [deliver, ← isSome_find?_iff]
  by_cases hused : (q.find? q.nextToken).isSome
  · exact .inl ⟨hused, if_pos hused⟩
  · exact .inr ⟨hused, if_neg hused⟩

theorem unacked_deliver_of_notMem (free : q.nextToken ∉ q.unacked.map Prod.fst)
    (message : Message δ) : (q.deliver message).2.unacked =
      q.unacked ++ [(q.nextToken, { message with deliveries := message.deliveries + 1 })] :=
  ((q.unacked_deliver_cases message).resolve_left fun hused => free hused.1).2

/-- What is outstanding then was so before, or is the message that was handed over. -/
theorem mem_unacked_deliver {entry : UInt64 × Message δ}
    (hentry : entry ∈ (q.deliver message).2.unacked) : entry ∈ q.unacked ∨
      entry = (q.nextToken, { message with deliveries := message.deliveries + 1 }) := by
  rcases q.unacked_deliver_cases message with ⟨-, hunacked⟩ | ⟨-, hunacked⟩
  · rw [hunacked] at hentry
    exact .inl hentry
  · rw [hunacked, List.mem_append, List.mem_singleton] at hentry
    exact hentry

theorem distinct_deliver (distinct : (q.unacked.map Prod.fst).Nodup) (message : Message δ) :
    ((q.deliver message).2.unacked.map Prod.fst).Nodup := by
  rcases q.unacked_deliver_cases message with ⟨-, hunacked⟩ | ⟨hfree, hunacked⟩
  · rw [hunacked]
    exact distinct
  · rw [hunacked, List.map_append, List.map_singleton]
    exact distinct.append (List.nodup_singleton _) (by simpa using hfree)

end Queue
end BrokerLoad
