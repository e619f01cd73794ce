import BrokerLoad.Proofs.Ledger.Service
import Mathlib.Algebra.BigOperators.Group.List.Basic
import Mathlib.Algebra.Order.Ring.Nat

/-!
# How many ids have been seen

The size of the set of seen ids is the sum of the sizes of its shards, and each shard has a
lock of its own: who wants to know the size looks at one shard after the other, and ids may be
noted in between.  `SeenIds.sizeBelow` is what the first so many shards hold.  Noting an id
adds one to it or nothing (`sizeBelow_insert`), so a sum that was begun some time ago is never
more than what is there now.

That the size counts ids, and counts each once, is `SeenIds.Lists`: there is a list without
repetition of the ids seen, and it is as long as the set is large.
-/

namespace BrokerLoad
namespace SeenIds

/-- How many ids the first so many shards hold. -/
def sizeBelow (seen : SeenIds) (count : Nat) : Nat :=
  ((seen.shards.toList.map Std.TreeSet.size).take count).sum

@[simp] theorem sizeBelow_zero (seen : SeenIds) : seen.sizeBelow 0 = 0 := rfl

/-- One more shard. -/
theorem sizeBelow_succ (seen : SeenIds) {count : Nat} (hcount : count < shardCount) :
    seen.sizeBelow (count + 1) = seen.sizeBelow count + seen.shards[count].size := by
  have hlength : count < (seen.shards.toList.map Std.TreeSet.size).length := by
    rw [List.length_map, Vector.length_toList]
    exact hcount
  rw [sizeBelow, List.sum_take_succ _ _ hlength, List.getElem_map, Vector.getElem_toList]
  rfl

theorem sizeBelow_shardCount (seen : SeenIds) : seen.sizeBelow shardCount = seen.size := by
  have hlength : (seen.shards.toList.map Std.TreeSet.size).length ≤ shardCount :=
    Nat.le_of_eq ((List.length_map _).trans Vector.length_toList)
  rw [sizeBelow, List.take_of_length_le hlength, size, List.sum_eq_foldl]

/-- A shard that an id is put into for the first time is larger by one. -/
theorem sizeBelow_set (seen : SeenIds) {id : UInt64} (new : seen.contains id = false) {count : Nat}
    (hcount : count ≤ shardCount) :
    sizeBelow ⟨seen.shards.set (shardOf id) ((seen.shard id).insert id)⟩ count =
      seen.sizeBelow count + if (shardOf id).val < count then 1 else 0 := by
  induction count with
  | zero => rfl
  | succ count ih =>
    rw [sizeBelow_succ _ hcount, sizeBelow_succ _ hcount, ih (Nat.le_of_succ_le hcount)]
    by_cases hshard : (shardOf id).val = count
    · subst hshard
      have hgrown : ((seen.shard id).insert id).size = (seen.shard id).size + 1 := by
        rw [Std.TreeSet.size_insert, if_neg]
        rw [show (seen.shard id).contains id = false from new]
        decide
      rw [Vector.getElem_set_self, hgrown, if_neg (Nat.lt_irrefl _), if_pos (Nat.lt_succ_self _)]
      exact (Nat.add_assoc _ _ 1).symm
    · rw [Vector.getElem_set_ne _ _ hshard]
      split <;> split <;> omega

/-- Noting an id that is new makes its shard larger by one. -/
theorem sizeBelow_insert (seen : SeenIds) (id : UInt64) {count : Nat}
    (hcount : count ≤ shardCount) :
    (seen.insert id).2.sizeBelow count =
      seen.sizeBelow count +
        if seen.contains id = false ∧ (shardOf id).val < count then 1 else 0 := by
  unfold insert
  cases hseen : seen.contains id with
  | true => rfl
  | false =>
    simp only [true_and]
    exact sizeBelow_set seen hseen hcount

/-- What the shards hold is never less than it was. -/
theorem sizeBelow_le_insert (seen : SeenIds) (id : UInt64) {count : Nat}
    (hcount : count ≤ shardCount) :
    seen.sizeBelow count ≤ (seen.insert id).2.sizeBelow count := by
  rw [sizeBelow_insert seen id hcount]
  exact Nat.le_add_right _ _

/-- The ids seen, each once. -/
structure Lists (seen : SeenIds) (ids : List UInt64) : Prop where
  nodup : ids.Nodup
  mem_iff : ∀ id, id ∈ ids ↔ seen.contains id = true
  /-- The size counts them. -/
  size : seen.size = ids.length

theorem Lists.empty : Lists {} [] where
  nodup := .nil
  mem_iff id := by simp [contains_empty]
  size := by decide

theorem Lists.insert {seen : SeenIds} {ids : List UInt64} (lists : seen.Lists ids) (id : UInt64) :
    ∃ ids, (seen.insert id).2.Lists ids := by
  have hsize := sizeBelow_insert seen id (Nat.le_refl shardCount)
  rw [sizeBelow_shardCount, sizeBelow_shardCount, lists.size] at hsize
  simp only [(shardOf id).isLt, and_true] at hsize
  cases hseen : seen.contains id with
  | true =>
    refine ⟨ids, lists.nodup, fun other => ?_, ?_⟩
    · rw [contains_insert, Bool.or_eq_true, decide_eq_true_iff, lists.mem_iff]
      exact ⟨.inr, fun h => h.elim (fun hsame => hsame ▸ hseen) (fun hmem => hmem)⟩
    · rw [hsize, hseen, if_neg (by decide), Nat.add_zero]
  | false =>
    have hnew : id ∉ ids := by
      rw [lists.mem_iff, hseen]
      decide
    refine ⟨id :: ids, lists.nodup.cons hnew, fun other => ?_, ?_⟩
    · rw [contains_insert, Bool.or_eq_true, decide_eq_true_iff, List.mem_cons, lists.mem_iff]
    · rw [hsize, hseen, if_pos rfl, List.length_cons]

end SeenIds
end BrokerLoad
