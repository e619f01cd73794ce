import BrokerLoad.Proofs.Ledger.Counting
import Mathlib.Data.List.Dedup

/-!
# Repeats among noted ids

When ids are noted one after another, every one of them either is new or repeats an id noted
before (`SeenIds.repeats`).  The set grows by those that are new (`size_noteAll`).  Which of
several occurrences of an id is the new one depends on the order, but their number does not:
each id that the set did not hold is new once (`repeats_add_length_unseen`).
-/

namespace BrokerLoad
namespace SeenIds

/-- The set after some ids were noted, first one first. -/
def noteAll (seen : SeenIds) (ids : List UInt64) : SeenIds :=
  ids.foldl (fun seen id => (seen.insert id).2) seen

/-- How many ids were in the set already when they were noted. -/
def repeats (seen : SeenIds) : List UInt64 → Nat
  | [] => 0
  | id :: ids => (seen.contains id).toNat + (seen.insert id).2.repeats ids

/-- The ids that the set does not hold, each once. -/
def unseen (seen : SeenIds) (ids : List UInt64) : List UInt64 :=
  (ids.filter fun id => !seen.contains id).dedup

@[simp] theorem noteAll_nil (seen : SeenIds) : seen.noteAll [] = seen := rfl

@[simp] theorem repeats_nil (seen : SeenIds) : seen.repeats [] = 0 := rfl

theorem noteAll_append (seen : SeenIds) (ids more : List UInt64) :
    seen.noteAll (ids ++ more) = (seen.noteAll ids).noteAll more :=
  List.foldl_append

theorem repeats_append (seen : SeenIds) (ids more : List UInt64) :
    seen.repeats (ids ++ more) = seen.repeats ids + (seen.noteAll ids).repeats more := by
  induction ids generalizing seen with
  | nil => exact (Nat.zero_add _).symm
  | cons id ids ih =>
    rw [List.cons_append, repeats, ih, repeats, Nat.add_assoc]
    rfl

/-- The set holds what it held before, and what was noted. -/
theorem contains_noteAll (seen : SeenIds) (ids : List UInt64) (id : UInt64) :
    (seen.noteAll ids).contains id = (decide (id ∈ ids) || seen.contains id) := by
  induction ids generalizing seen with
  | nil => simp
  | cons first ids ih =>
    show ((seen.insert first).2.noteAll ids).contains id = _
    rw [ih, contains_insert]
    by_cases hfirst : id = first <;> simp [hfirst]

/-- Noting an id makes the set larger unless it is a repeat. -/
theorem size_insert (seen : SeenIds) (id : UInt64) :
    (seen.insert id).2.size + (seen.contains id).toNat = seen.size + 1 := by
  have hsize := sizeBelow_insert seen id (Nat.le_refl shardCount)
  rw [sizeBelow_shardCount, sizeBelow_shardCount] at hsize
  simp only [(shardOf id).isLt, and_true] at hsize
  rw [hsize]
  cases seen.contains id <;> rfl

/-- The set grows by the ids that are no repeats. -/
theorem size_noteAll (seen : SeenIds) (ids : List UInt64) :
    (seen.noteAll ids).size + seen.repeats ids = seen.size + ids.length := by
  induction ids generalizing seen with
  | nil => rfl
  | cons id ids ih =>
    have hone := seen.size_insert id
    have hrest : ((seen.insert id).2.noteAll ids).size + (seen.insert id).2.repeats ids =
        (seen.insert id).2.size + ids.length := ih _
    show ((seen.insert id).2.noteAll ids).size +
      ((seen.contains id).toNat + (seen.insert id).2.repeats ids) = seen.size + (ids.length + 1)
    omega

theorem unseen_perm (seen : SeenIds) {ids ids' : List UInt64} (perm : ids.Perm ids') :
    (seen.unseen ids).Perm (seen.unseen ids') :=
  (perm.filter _).dedup

/-- One more id is one more that the set does not hold, unless it is a repeat. -/
theorem length_unseen_concat (seen : SeenIds) (ids : List UInt64) (id : UInt64) :
    (seen.unseen (ids ++ [id])).length + ((seen.noteAll ids).contains id).toNat =
      (seen.unseen ids).length + 1 := by
  have hperm : (seen.unseen (ids ++ [id])).Perm (seen.unseen (id :: ids)) :=
    seen.unseen_perm (List.perm_append_singleton id ids)
  rw [hperm.length_eq, contains_noteAll, unseen, unseen]
  cases hseen : seen.contains id with
  | true =>
    rw [List.filter_cons_of_neg (by simp [hseen]), Bool.or_true]
    rfl
  | false =>
    rw [List.filter_cons_of_pos (by simp [hseen]), Bool.or_false]
    by_cases hmem : id ∈ ids
    · rw [List.dedup_cons_of_mem (List.mem_filter.2 ⟨hmem, by simp [hseen]⟩), decide_eq_true hmem]
      rfl
    · rw [List.dedup_cons_of_notMem fun h => hmem (List.mem_of_mem_filter h),
        decide_eq_false hmem, List.length_cons]
      rfl

/-- Of the occurrences of an id that the set does not hold all but one are repeats. -/
theorem repeats_add_length_unseen (seen : SeenIds) (ids : List UInt64) :
    seen.repeats ids + (seen.unseen ids).length = ids.length := by
  induction ids using List.reverseRecOn with
  | nil => rfl
  | append_singleton ids id ih =>
    have hone := seen.length_unseen_concat ids id
    have hrepeats : (seen.noteAll ids).repeats [id] = ((seen.noteAll ids).contains id).toNat :=
      Nat.add_zero _
    rw [repeats_append, hrepeats, List.length_append, List.length_singleton]
    omega

end SeenIds
end BrokerLoad
