import BrokerLoad.Proofs.Ledger.Repeats
import Mathlib.Data.Finset.Card
import Mathlib.Logic.Function.Basic

/-!
# A set that many threads share

The set of seen ids answers as a plain set would (`SeenIds.truth`): an id is new when it is inserted
for the first time, it is there from then on, and the size is the number of different ids.  That the
ids are spread over shards cannot be told from the answers, because an id is only ever in one of
them (`SeenIds.shard_noteAll`).

Every shard has a lock of its own, so what is atomic is a *visit* of one shard.  One visit answers
for an id, but the size is added up shard by shard, and other threads make their visits in between
(`SeenIds.Visited`).  As long as nothing is inserted while somebody adds up, what was added up so
far remains the size of these shards, and so the answers are those of a plain set that is asked at
the last visit of every question (`SeenIds.refines_set`).
-/

namespace BrokerLoad
namespace SeenIds

/-! ## Shards -/

/-- An id is put into its own shard and no other. -/
theorem contains_shards_insert (seen : SeenIds) (id other : UInt64) (shard : Fin shardCount) :
    ((seen.insert id).2.shards[shard]).contains other =
      (decide (other = id ∧ shard = shardOf id) || (seen.shards[shard]).contains other) := by
  unfold insert
  split
  next hseen =>
    by_cases hsame : other = id ∧ shard = shardOf id
    · obtain ⟨rfl, rfl⟩ := hsame
      rw [show (seen.shards[shardOf other]).contains other = true from hseen, Bool.or_true]
    · rw [decide_eq_false hsame, Bool.false_or]
  next hnew =>
    have hset : (⟨seen.shards.set (shardOf id) ((seen.shard id).insert id)⟩ : SeenIds).shards[shard]
        = if shardOf id = shard then (seen.shard id).insert id else seen.shards[shard] := by
      simp only [Fin.getElem_fin, Vector.getElem_set, Fin.ext_iff]
    rw [hset]
    by_cases hshard : shardOf id = shard
    · subst hshard
      have hsame : (compare id other == .eq) = decide (other = id) := by
        rw [beq_eq_decide, decide_eq_decide, Std.compare_eq_iff_eq]
        exact eq_comm
      simp only [if_pos, Std.TreeSet.contains_insert, hsame, and_true]
      rfl
    · have hother : ¬ (other = id ∧ shard = shardOf id) := fun h => hshard h.2.symm
      rw [if_neg hshard, decide_eq_false hother, Bool.false_or]

/-- A shard holds those ids that it is the shard of, of all that were noted. -/
theorem shard_noteAll (ids : List UInt64) (id : UInt64) (shard : Fin shardCount) :
    ((({} : SeenIds).noteAll ids).shards[shard]).contains id =
      decide (id ∈ ids ∧ shard = shardOf id) := by
  induction ids using List.reverseRecOn with
  | nil => simp
  | append_singleton ids last ih =>
    rw [noteAll_append]
    show ((({} : SeenIds).noteAll ids).insert last).2.shards[shard].contains id = _
    rw [contains_shards_insert, ih]
    by_cases hlast : id = last <;> simp [hlast]

/-! ## The truth -/

/-- What the set can be asked. -/
inductive Question where
  /-- Whether an id is new, which it is no longer from then on. -/
  | insert (id : UInt64)
  | contains (id : UInt64)
  | size
  deriving DecidableEq

/-- What the set can answer. -/
inductive Answer where
  | isNew (new : Bool)
  | isSeen (seen : Bool)
  | number (number : Nat)
  deriving DecidableEq

/-- The id that a question inserts. -/
def Question.inserted? : Question → Option UInt64
  | .insert id => some id
  | .contains _ => none
  | .size => none

/-- The ids that questions insert, one for each time that it is inserted. -/
def insertedIn (history : List Question) : List UInt64 := history.filterMap Question.inserted?

/-- What a plain set answers that was asked a history of questions before. -/
def truth (history : List Question) : Question → Answer
  | .insert id => .isNew (.insert id ∉ history)
  | .contains id => .isSeen (.insert id ∈ history)
  | .size => .number (insertedIn history).toFinset.card

/-- Whether all answers are the truth, each about the questions before it. -/
def Truthful (history : List Question) : List (Question × Answer) → Prop
  | [] => True
  | (question, answer) :: rest =>
    answer = truth history question ∧ Truthful (history ++ [question]) rest

theorem mem_insertedIn {history : List Question} {id : UInt64} :
    id ∈ insertedIn history ↔ .insert id ∈ history := by
  rw [insertedIn, List.mem_filterMap]
  constructor
  · rintro ⟨question, hmem, hid⟩
    cases question <;> cases hid
    exact hmem
  · exact fun hmem => ⟨_, hmem, rfl⟩

theorem insertedIn_append (history more : List Question) :
    insertedIn (history ++ more) = insertedIn history ++ insertedIn more :=
  List.filterMap_append

/-- The set that remembers a history of questions. -/
def remembering (history : List Question) : SeenIds :=
  ({} : SeenIds).noteAll (insertedIn history)

theorem remembering_concat (history : List Question) (question : Question) :
    remembering (history ++ [question]) =
      (remembering history).noteAll (insertedIn [question]) := by
  rw [remembering, insertedIn_append, noteAll_append]
  rfl

theorem contains_remembering (history : List Question) (id : UInt64) :
    (remembering history).contains id = decide (.insert id ∈ history) := by
  rw [remembering, contains_noteAll, contains_empty, Bool.or_false, decide_eq_decide]
  exact mem_insertedIn

theorem size_remembering (history : List Question) :
    (remembering history).size = (insertedIn history).toFinset.card := by
  have hsize := size_noteAll {} (insertedIn history)
  have hrepeats := repeats_add_length_unseen {} (insertedIn history)
  have hunseen : unseen {} (insertedIn history) = (insertedIn history).dedup := by
    rw [unseen, List.filter_eq_self.2 fun id _ => by rw [contains_empty]; rfl]
  have hempty : ({} : SeenIds).size = 0 := Lists.empty.size
  rw [hunseen, ← List.card_toFinset] at hrepeats
  rw [remembering]
  omega

/-! ## Questions, one after another -/

/-- Asks a question. -/
def ask (seen : SeenIds) : Question → Answer × SeenIds
  | .insert id => (.isNew (seen.insert id).1, (seen.insert id).2)
  | .contains id => (.isSeen (seen.contains id), seen)
  | .size => (.number seen.size, seen)

/-- Asks questions, and keeps them with their answers. -/
def askAll (seen : SeenIds) : List Question → List (Question × Answer)
  | [] => []
  | question :: rest => (question, (seen.ask question).1) :: (seen.ask question).2.askAll rest

/-- The truth is told, and the question is remembered. -/
theorem ask_remembering (history : List Question) (question : Question) :
    (remembering history).ask question =
      (truth history question, remembering (history ++ [question])) := by
  rw [remembering_concat]
  cases question with
  | insert id =>
    rw [ask, fst_insert, contains_remembering, truth, decide_not]
    rfl
  | contains id =>
    rw [ask, contains_remembering]
    rfl
  | size =>
    rw [ask, size_remembering]
    rfl

theorem truthful_askAll (history questions : List Question) :
    Truthful history ((remembering history).askAll questions) := by
  induction questions generalizing history with
  | nil => trivial
  | cons question rest ih =>
    rw [askAll, ask_remembering]
    exact ⟨rfl, ih _⟩

/-! ## Visits -/

/-- A thread comes to a shard with a question: to that of the id, or to the next one if it asks for
the size. -/
structure Visit where
  thread : Nat
  question : Question
  deriving DecidableEq

/-- How far a thread is with the size. -/
structure Tally where
  /-- The shard that is next. -/
  shard : Fin shardCount := ⟨0, by decide⟩
  /-- The sizes of the shards before. -/
  sum : Nat := 0

theorem Tally.eq_of_last {tally : Tally} (last : ¬ tally.shard.val + 1 < shardCount) :
    tally.shard.val + 1 = shardCount :=
  Nat.le_antisymm tally.shard.isLt (Nat.not_lt.1 last)

/-- The set, and the threads that are adding up its size. -/
structure Visited where
  seen : SeenIds := {}
  tallies : Nat → Tally := fun _ => {}

namespace Visited

/-- A visit, and the answer to the question if this was the last visit for it. -/
def visit (visited : Visited) : Visit → Option Answer × Visited
  | ⟨thread, .size⟩ =>
    let tally := visited.tallies thread
    let sum := tally.sum + (visited.seen.shards[tally.shard]).size
    if more : tally.shard + 1 < shardCount then
      (none, { visited with
        tallies := Function.update visited.tallies thread ⟨⟨tally.shard + 1, more⟩, sum⟩ })
    else
      (some (.number sum), { visited with
        tallies := Function.update visited.tallies thread {} })
  | ⟨_, question⟩ =>
    (some (visited.seen.ask question).1, { visited with seen := (visited.seen.ask question).2 })

/-- What threads are told in a number of visits, each in its last visit for a question. -/
def told (visited : Visited) : List Visit → List (Visit × Answer)
  | [] => []
  | visit :: rest =>
    ((visited.visit visit).1.map fun answer => (visit, answer)).toList ++
      (visited.visit visit).2.told rest

/-- The set after a number of visits. -/
def after (visited : Visited) (visits : List Visit) : Visited :=
  visits.foldl (fun visited visit => (visited.visit visit).2) visited

/-- Whether nothing is inserted while some thread is adding up the size. -/
def Undisturbed (visited : Visited) : List Visit → Prop
  | [] => True
  | visit :: rest =>
    (∀ id, visit.question = .insert id → ∀ thread, (visited.tallies thread).shard.val = 0) ∧
      (visited.visit visit).2.Undisturbed rest

/-! ## What threads are told -/

/-- A set that remembers a history of questions, and sums that are right for the shards of now. -/
structure IsUpToDate (visited : Visited) (history : List Question) : Prop where
  seen : visited.seen = remembering history
  sums : ∀ thread, (visited.tallies thread).sum =
    visited.seen.sizeBelow (visited.tallies thread).shard

theorem IsUpToDate.start : IsUpToDate {} [] := ⟨rfl, fun _ => rfl⟩

namespace IsUpToDate

variable {visited : Visited} {history : List Question} (upToDate : visited.IsUpToDate history)
include upToDate

/-- Questions that do not insert leave the set as it is. -/
theorem seen_concat {question : Question} (asks : question.inserted? = none) :
    visited.seen = remembering (history ++ [question]) := by
  rw [remembering_concat, insertedIn, List.filterMap_cons_none asks, ← upToDate.seen]
  rfl

/-- A thread goes on to a shard, and its sum is that of the shards before. -/
theorem sums_update {thread : Nat} {tally : Tally}
    (right : tally.sum = visited.seen.sizeBelow tally.shard) (other : Nat) :
    (Function.update visited.tallies thread tally other).sum =
      visited.seen.sizeBelow (Function.update visited.tallies thread tally other).shard := by
  by_cases hother : other = thread
  · rw [hother, Function.update_self]
    exact right
  · rw [Function.update_of_ne hother]
    exact upToDate.sums other

/-- A visit tells the truth about the questions before it, or nothing yet. -/
theorem visit (visit : Visit) (undisturbed : ∀ id, visit.question = .insert id →
      ∀ thread, (visited.tallies thread).shard.val = 0) :
    ((visited.visit visit).1 = some (truth history visit.question) ∧
      (visited.visit visit).2.IsUpToDate (history ++ [visit.question])) ∨
    ((visited.visit visit).1 = none ∧ (visited.visit visit).2.IsUpToDate history) := by
  obtain ⟨thread, question⟩ := visit
  have hask := ask_remembering history question
  rw [← upToDate.seen] at hask
  cases question with
  | insert id =>
    refine .inl ⟨congrArg some (congrArg Prod.fst hask), congrArg Prod.snd hask, ?_⟩
    intro other
    -- Nobody has begun to add up, and the first no shards hold nothing, before and after.
    have hidle := undisturbed id rfl other
    have hsum := upToDate.sums other
    rw [hidle] at hsum
    show (visited.tallies other).sum = sizeBelow _ (visited.tallies other).shard.val
    rw [hsum, hidle]
    rfl
  | contains id =>
    exact .inl ⟨congrArg some (congrArg Prod.fst hask), upToDate.seen_concat rfl,
      upToDate.sums⟩
  | size =>
    have hsum : (visited.tallies thread).sum +
        (visited.seen.shards[(visited.tallies thread).shard]).size =
          visited.seen.sizeBelow ((visited.tallies thread).shard + 1) := by
      rw [sizeBelow_succ _ (visited.tallies thread).shard.isLt, upToDate.sums]
      rfl
    rw [Visited.visit]
    split
    next more => exact .inr ⟨rfl, upToDate.seen, upToDate.sums_update hsum⟩
    next last =>
      rw [Tally.eq_of_last last, sizeBelow_shardCount] at hsum
      refine .inl ⟨?_, upToDate.seen_concat rfl, upToDate.sums_update rfl⟩
      rw [hsum]
      exact congrArg some (congrArg Prod.fst hask)

/-- Threads are told the truth as long as nobody disturbs those that add up. -/
theorem truthful_told {visits : List Visit} (undisturbed : visited.Undisturbed visits) :
    Truthful history ((visited.told visits).map fun told => (told.1.question, told.2)) := by
  induction visits generalizing visited history with
  | nil => trivial
  | cons visit rest ih =>
    obtain ⟨hnow, hrest⟩ := undisturbed
    rw [told]
    rcases upToDate.visit visit hnow with ⟨htrue, hnext⟩ | ⟨hnothing, hnext⟩
    · rw [htrue]
      exact ⟨rfl, ih hnext hrest⟩
    · rw [hnothing]
      exact ih hnext hrest

end IsUpToDate

/-- The set is the one that the questions make, whoever asks them. -/
theorem seen_after (visited : Visited) (visits : List Visit) :
    (visited.after visits).seen =
      visited.seen.noteAll (insertedIn (visits.map Visit.question)) := by
  induction visits generalizing visited with
  | nil => rfl
  | cons visit rest ih =>
    rw [after, List.foldl_cons, ← after, ih, List.map_cons, ← List.singleton_append,
      insertedIn_append, noteAll_append]
    congr 1
    obtain ⟨thread, question⟩ := visit
    cases question with
    | insert id => rfl
    | contains id => rfl
    | size =>
      rw [Visited.visit]
      split <;> rfl

/-- What is asked about an id is answered at once. -/
theorem filter_told (visited : Visited) (visits : List Visit) :
    ((visited.told visits).map Prod.fst).filter (fun visit => visit.question ≠ .size) =
      visits.filter fun visit => visit.question ≠ .size := by
  induction visits generalizing visited with
  | nil => rfl
  | cons visit rest ih =>
    obtain ⟨thread, question⟩ := visit
    rw [told, List.map_append, List.filter_append, ih]
    cases question with
    | insert id => rfl
    | contains id => rfl
    | size =>
      rw [Visited.visit]
      split <;> rfl

/-- Who asks for the size is answered after as many visits as there are shards. -/
theorem count_told (visited : Visited) (visits : List Visit) (thread : Nat) :
    ((visited.told visits).map Prod.fst).count ⟨thread, .size⟩ =
      ((visited.tallies thread).shard.val + visits.count ⟨thread, .size⟩) / shardCount := by
  induction visits generalizing visited with
  | nil => exact (Nat.div_eq_of_lt (visited.tallies thread).shard.isLt).symm
  | cons visit rest ih =>
    obtain ⟨asker, question⟩ := visit
    rw [told, List.map_append, List.count_append, ih]
    cases question with
    | insert id => simp [Visited.visit]
    | contains id => simp [Visited.visit]
    | size =>
      rw [Visited.visit, List.count_cons]
      by_cases hasker : asker = thread
      · subst hasker
        rw [if_pos (beq_self_eq_true _), ← Nat.add_assoc, Nat.add_right_comm]
        split
        next more => simp
        next last =>
          rw [Tally.eq_of_last last, Nat.add_div_left _ (by decide)]
          simp [Nat.add_comm]
      · split
        next more => simp [hasker, Function.update_of_ne (Ne.symm hasker)]
        next last => simp [hasker, Function.update_of_ne (Ne.symm hasker)]

end Visited

open Visited (Undisturbed)

/-- What comes of visits to an empty set, made by any number of threads in any order. -/
structure IsShared (visits : List Visit) : Prop where
  /-- All answers are the truth if nothing is inserted while some thread adds up the size. -/
  truthful : Undisturbed {} visits →
    Truthful [] ((({} : Visited).told visits).map fun told => (told.1.question, told.2))
  /-- What is asked about an id is answered at once. -/
  answered : ((({} : Visited).told visits).map Prod.fst).filter
      (fun visit => visit.question ≠ .size) = visits.filter fun visit => visit.question ≠ .size
  /-- A thread is told the size at every sixteenth of its visits for it. -/
  sizes : ∀ thread, ((({} : Visited).told visits).map Prod.fst).count ⟨thread, .size⟩ =
    visits.count ⟨thread, .size⟩ / 16
  /-- An id that was inserted is in the shard of its remainder, and in no other. -/
  placed : ∀ (shard : Fin shardCount) (id : UInt64),
    ((({} : Visited).after visits).seen.shards[shard]).contains id = true ↔
      .insert id ∈ visits.map Visit.question ∧ shard.val = id.toNat % 16

/-- The set answers as a plain set: to questions that are asked one after another, and to threads
that share it. -/
theorem refines_set (questions : List Question) (visits : List Visit) :
    Truthful [] (({} : SeenIds).askAll questions) ∧ IsShared visits where
  left := truthful_askAll [] questions
  right :=
    { truthful := fun undisturbed => Visited.IsUpToDate.start.truthful_told undisturbed
      answered := Visited.filter_told {} visits
      sizes := fun thread => by
        rw [Visited.count_told]
        exact congrArg (· / 16) (Nat.zero_add _)
      placed := fun shard id => by
        rw [Visited.seen_after, shard_noteAll, decide_eq_true_iff, mem_insertedIn, Fin.ext_iff]
        rfl }

/-- Three threads insert two ids of one shard, one of them twice; and two threads take turns with
the shards. -/
example :
    let inserts : List Visit := [⟨0, .insert 7⟩, ⟨1, .insert 23⟩, ⟨2, .insert 7⟩]
    let turns : List Visit := (List.replicate 16 [⟨0, .size⟩, ⟨1, .size⟩]).flatten
    (({} : Visited).told (inserts ++ turns)).map Prod.snd =
      [.isNew true, .isNew true, .isNew false, .number 2, .number 2] := by
  decide +kernel

end SeenIds
end BrokerLoad
