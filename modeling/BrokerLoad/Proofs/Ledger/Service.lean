import BrokerLoad.Crew
import BrokerLoad.Proofs.Run
import Mathlib.Algebra.Group.Nat.Defs
import Mathlib.Data.List.Nodup

/-!
# The ledger's part in a run

Of the queries of an engine the ledger answers three: it hands out ids, it notes ids, and
it takes in emissions.  `Ledger.Allows` says which replies are the ledger's own and
`Ledger.after` what becomes of it; everything else that is asked is none of its business.
`shared_answer` says that this is what a crew's workers really get, whatever the client.

`Ledger.Serves` is a ledger that serves one machine, and others in between; what the others
asked is kept apart from the turns of the machine.  Three facts about it are used to read
counters off a run: the ids are given out one after another (`Serves.latest`), and so those
of the machine are all different until the mint has gone all the way round
(`Serves.nodup_mintedIds`), and if there are no others, then the metrics are what the
emissions made of them (`Serves.metrics`).
-/

namespace BrokerLoad

/-! ## Counting words -/

/-- So many words that follow a word, one after another. -/
def wordsAfter (word : UInt64) (count : Nat) : List UInt64 :=
  (List.range count).map fun i => word + UInt64.ofNat (i + 1)

theorem wordsAfter_succ (word : UInt64) (count : Nat) :
    wordsAfter word (count + 1) = wordsAfter word count ++ [word + UInt64.ofNat (count + 1)] := by
  rw [wordsAfter, List.range_succ, List.map_append, List.map_singleton, wordsAfter]

/-- They are all different until they come to the word itself again. -/
theorem nodup_wordsAfter (word : UInt64) {count : Nat} (hcount : count ≤ 2 ^ 64) :
    (wordsAfter word count).Nodup := by
  refine List.Nodup.map_on ?_ List.nodup_range
  intro i hi j hj hij
  rw [List.mem_range] at hi hj
  have hword := congrArg UInt64.toNat ((UInt64.add_right_inj _).1 hij)
  rw [UInt64.toNat_ofNat', UInt64.toNat_ofNat'] at hword
  omega

namespace SeenIds

/-! ## Noting ids -/

theorem contains_empty (id : UInt64) : ({} : SeenIds).contains id = false := by
  simp [contains, shard]

/-- Noting an id tells whether it was new. -/
theorem fst_insert (seen : SeenIds) (id : UInt64) : (seen.insert id).1 = !seen.contains id := by
  unfold insert
  cases seen.contains id <;> rfl

theorem shard_set (seen : SeenIds) (id other : UInt64) (ids : Std.TreeSet UInt64) :
    shard ⟨seen.shards.set (shardOf id) ids (shardOf id).isLt⟩ other =
      if shardOf id = shardOf other then ids else seen.shard other := by
  simp only [shard, Fin.getElem_fin, Vector.getElem_set, Fin.ext_iff]

/-- Noting an id adds it to those seen, and no other. -/
theorem contains_insert (seen : SeenIds) (id other : UInt64) :
    (seen.insert id).2.contains other = (decide (other = id) || seen.contains other) := by
  unfold insert
  split
  next hseen =>
    by_cases hsame : other = id
    · rw [hsame, hseen, Bool.or_true]
    · rw [decide_eq_false hsame, Bool.false_or]
  next hnew =>
    rw [contains, shard_set]
    split
    next hshard =>
      have hone : seen.shard id = seen.shard other := by simp only [shard, hshard]
      have hsame : (compare id other == .eq) = decide (other = id) := by
        rw [beq_eq_decide, decide_eq_decide, Std.compare_eq_iff_eq]
        exact eq_comm
      rw [Std.TreeSet.contains_insert, hone, hsame, ← contains]
    next hother =>
      have hsame : other ≠ id := fun h => hother (h ▸ rfl)
      rw [decide_eq_false hsame, Bool.false_or, contains]

end SeenIds

/-! ## What the ledger answers -/

namespace Metrics

/-- The metrics after an emission. -/
def absorb (m : Metrics) : Emission → Metrics
  | .say _ => m
  | .bump counter amount => m.add amount counter
  | .sample channel => m.updateLatency (·.record 0) channel

end Metrics

namespace Ledger

/-- Whether a reply is the one that the ledger gives, if the query is one for it. -/
def Allows (ledger : Ledger) : Exchange → Prop
  | ⟨.mint, id⟩ => id = ledger.ids.next.1
  | ⟨.note id, fresh⟩ => fresh = (ledger.seen.insert id).1
  | _ => True

/-- The ledger after an exchange. -/
def after (ledger : Ledger) : Exchange → Ledger
  | ⟨.emit emission, _⟩ => { ledger with metrics := ledger.metrics.absorb emission }
  | ⟨.mint, _⟩ => { ledger with ids := ledger.ids.next.2 }
  | ⟨.note id, _⟩ => { ledger with seen := (ledger.seen.insert id).2 }
  | _ => ledger

/-- A worker's queries are answered by the ledger of its crew, whatever the client. -/
theorem shared_answer {β : Type} [Client β] (shared : Shared β) (stop : Bool) (query : Query) :
    shared.ledger.Allows ⟨query, (shared.answer stop query).reply⟩ ∧
      (shared.answer stop query).client.ledger =
        shared.ledger.after ⟨query, (shared.answer stop query).reply⟩ := by
  cases query with
  | emit emission => cases emission <;> exact ⟨trivial, rfl⟩
  | mint => exact ⟨rfl, rfl⟩
  | note id => exact ⟨rfl, rfl⟩
  | pause => exact ⟨trivial, rfl⟩
  | stopRequested => exact ⟨trivial, rfl⟩
  | broker call => exact ⟨trivial, rfl⟩

/-- The ids that others were given, in order. -/
def idsOf (others : List Exchange) : List UInt64 := others.filterMap Exchange.minted?

theorem idsOf_append (others more : List Exchange) :
    idsOf (others ++ more) = idsOf others ++ idsOf more :=
  List.filterMap_append

/-- A ledger that serves one machine, from the first of its turns on, and others in between. -/
inductive Serves {σ : Type} (before : Ledger) :
    List (Turn σ) → List Exchange → Ledger → Prop where
  /-- Nothing has been asked. -/
  | start : Serves before [] [] before
  /-- One more turn of the machine. -/
  | turn {turns : List (Turn σ)} {others : List Exchange} {ledger : Ledger} {turn : Turn σ}
      (served : Serves before turns others ledger) (allowed : ledger.Allows turn.exchange) :
      Serves before (turns ++ [turn]) others (ledger.after turn.exchange)
  /-- One more query of somebody else. -/
  | other {turns : List (Turn σ)} {others : List Exchange} {ledger : Ledger}
      {exchange : Exchange} (served : Serves before turns others ledger)
      (allowed : ledger.Allows exchange) :
      Serves before turns (others ++ [exchange]) (ledger.after exchange)

/-- An exchange moves the mint on by the ids given out in it. -/
theorem latest_after (ledger : Ledger) (exchange : Exchange) :
    (ledger.after exchange).ids.latest =
      ledger.ids.latest + UInt64.ofNat exchange.minted?.toList.length := by
  obtain ⟨query, reply⟩ := exchange
  cases query with
  | mint => rfl
  | _ => exact (UInt64.add_zero _).symm

namespace Serves

variable {σ : Type} {before ledger : Ledger} {turns : List (Turn σ)} {others : List Exchange}

/-- If there are no others, the metrics are what the emissions made of them. -/
theorem metrics (served : Serves before turns [] ledger) :
    ledger.metrics = (emissions turns).foldl Metrics.absorb before.metrics := by
  generalize hnone : ([] : List Exchange) = others at served
  induction served with
  | start => rfl
  | @turn turns others ledger turn served allowed ih =>
    obtain ⟨state, query, reply⟩ := turn
    rw [emissions_append, List.foldl_append, ← ih hnone]
    cases query <;> rfl
  | other served allowed ih =>
    exact absurd hnone.symm (List.append_ne_nil_of_right_ne_nil _ (List.cons_ne_nil _ _))

/-- The mint has moved on by the number of ids given out. -/
theorem latest (served : Serves before turns others ledger) :
    ledger.ids.latest =
      before.ids.latest + UInt64.ofNat ((mintedIds turns).length + (idsOf others).length) := by
  induction served with
  | start => exact (UInt64.add_zero _).symm
  | @turn turns others ledger turn served allowed ih =>
    have hone : (mintedIds [turn]).length = turn.exchange.minted?.toList.length := by
      rw [mintedIds, List.filterMap_cons]
      cases turn.exchange.minted? <;> rfl
    rw [latest_after, ih, mintedIds_append, List.length_append, hone, UInt64.add_assoc,
      ← UInt64.ofNat_add, Nat.add_right_comm]
  | @other turns others ledger exchange served allowed ih =>
    have hone : (idsOf [exchange]).length = exchange.minted?.toList.length := by
      rw [idsOf, List.filterMap_cons]
      cases exchange.minted? <;> rfl
    rw [latest_after, ih, idsOf_append, List.length_append, hone, UInt64.add_assoc,
      ← UInt64.ofNat_add, Nat.add_assoc]

/-- The ids that the machine was given are among those that follow the latest one before, one
after another, and in their order. -/
theorem mintedIds_sublist (served : Serves before turns others ledger) :
    (mintedIds turns).Sublist
      (wordsAfter before.ids.latest ((mintedIds turns).length + (idsOf others).length)) := by
  induction served with
  | start => exact List.Sublist.refl _
  | @turn turns others ledger turn served allowed ih =>
    obtain ⟨state, query, reply⟩ := turn
    cases query with
    | mint =>
      have hid : reply = before.ids.latest +
          UInt64.ofNat ((mintedIds turns).length + (idsOf others).length + 1) := by
        rw [UInt64.ofNat_add, ← UInt64.add_assoc, ← served.latest]
        exact allowed
      have hlast : mintedIds [⟨state, ⟨.mint, reply⟩⟩] = [reply] := rfl
      rw [mintedIds_append, hlast, List.length_append, List.length_singleton,
        Nat.add_right_comm, wordsAfter_succ, ← hid]
      exact ih.append (List.Sublist.refl _)
    | _ =>
      have hlast : mintedIds ([⟨state, ⟨_, reply⟩⟩] : List (Turn σ)) = [] := rfl
      rw [mintedIds_append, hlast, List.append_nil]
      exact ih
  | @other turns others ledger exchange served allowed ih =>
    refine ih.trans (List.Sublist.map _ (List.range_sublist.2 ?_))
    rw [idsOf_append, List.length_append]
    omega

/-- They are all different until the mint has gone all the way round. -/
theorem nodup_mintedIds (served : Serves before turns others ledger)
    (hcount : (mintedIds turns).length + (idsOf others).length ≤ 2 ^ 64) :
    (mintedIds turns).Nodup :=
  served.mintedIds_sublist.nodup (nodup_wordsAfter _ hcount)

end Serves
end Ledger
end BrokerLoad
