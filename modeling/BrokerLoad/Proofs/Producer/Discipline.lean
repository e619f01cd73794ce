import BrokerLoad.Proofs.Producer.Fate
import Mathlib.Algebra.Group.Nat.Defs
import Mathlib.Algebra.Order.BigOperators.Group.Finset
import Mathlib.Data.List.Perm.Subperm

/-!
# The discipline of sending

`Disciplined` says in full what it means that messages are sent in an orderly way: the
attempts at each are numbered one after another and are not too many, at most one of them
waits for its receipt, each but the first follows a refusal of the one before, and none
follows an acceptance.  A history in which every id has a fate is disciplined
(`Disciplined.of_fates`).

A producer comes in by `Tracks`: at any time it has something to do with some of its
messages, and knows their fates; all others are done with, or have not begun.  What a
producer does keeps that up if every event is about a message that it tracks and comes in
turn.  In this it has to rely on the ids that it takes being new.
-/

namespace BrokerLoad
namespace Producer

/-- Messages are sent in an orderly way. -/
structure Disciplined (maxAttempts : UInt32) (history : History) : Prop where
  /-- The attempts at a message are numbered without gaps, and are not more than may be. -/
  numbered : ∀ id, ∃ count ≤ max 1 maxAttempts.toNat,
    (history.attemptsOf id).map UInt32.toNat = List.range' 1 count
  /-- At no time do two of them wait for their receipts. -/
  oneAloft : ∀ (id : UInt64) (earlier : History), earlier <+: history →
    (earlier.attemptsOf id).length ≤ (earlier.answersOf id).length + 1
  /-- Each but the first follows a refusal of the one before. -/
  afterRefusal : ∀ (id : UInt64) (attempt : UInt32) (earlier : History),
    earlier ++ [.submitted id attempt] <+: history → attempt ≠ 1 →
      ∃ status, status ≠ .ok ∧ .answered id (attempt - 1) status ∈ earlier
  /-- None follows an acceptance. -/
  notAfterOk : ∀ (id : UInt64) (attempt before : UInt32) (earlier : History),
    earlier ++ [.submitted id attempt] <+: history → .answered id before .ok ∉ earlier

namespace Disciplined

variable {maxAttempts : UInt32} {history : History}

/-- A message that is submitted had rested until then, and this is the next attempt. -/
theorem fate?_of_submitted {cap : Nat} {id : UInt64} {attempt : UInt32} {earlier : History}
    {fate : Fate} (hfate : History.fate? cap id (earlier ++ [.submitted id attempt]) = some fate) :
    ∃ sent, earlier.fate? cap id = some (.resting sent) ∧ attempt.toNat = sent + 1 := by
  obtain ⟨before, hbefore⟩ := History.exists_fate?_of_prefix hfate
  have hnext : before.next cap (.submitted id attempt) = some fate :=
    (History.fate?_snoc_of_eq rfl hbefore).symm.trans hfate
  cases before with
  | resting sent =>
    rw [Fate.next, Option.ite_none_right_eq_some] at hnext
    exact ⟨sent, hbefore, hnext.1⟩
  | _ => simp [Fate.next] at hnext

/-- A history in which every id has a fate is disciplined. -/
theorem of_fates (fates : ∀ id, ∃ fate, history.fate? maxAttempts.toNat id = some fate) :
    Disciplined maxAttempts history where
  numbered id := by
    obtain ⟨fate, hfate⟩ := fates id
    have reads := Reads.of_fate? hfate
    exact ⟨fate.sent, reads.bounded, reads.attempts⟩
  oneAloft id earlier := by
    rintro ⟨later, rfl⟩
    obtain ⟨fate, hfate⟩ := fates id
    obtain ⟨before, hbefore⟩ := History.exists_fate?_of_prefix hfate
    obtain ⟨waiting, hwaiting, hlength, -⟩ := (Reads.of_fate? hbefore).answers
    rw [hwaiting, List.length_append, List.length_map]
    omega
  afterRefusal id attempt earlier := by
    rintro ⟨later, rfl⟩ hnot
    obtain ⟨fate, hfate⟩ := fates id
    obtain ⟨now, hnow⟩ := History.exists_fate?_of_prefix hfate
    obtain ⟨sent, hresting, hattempt⟩ := fate?_of_submitted hnow
    have reads := Reads.of_fate? hresting
    obtain ⟨waiting, hanswers, -, hnone⟩ := reads.answers
    have hpositive : sent ≠ 0 := by
      rintro rfl
      exact hnot (UInt32.toNat_inj.1 hattempt)
    have hbefore : (attempt - 1).toNat = sent := by
      rw [UInt32.toNat_sub_of_le attempt 1 (UInt32.le_iff_toNat_le.2 (by rw [hattempt]; simp)),
        hattempt]
      simp
    -- the last attempt before is numbered `sent`, and has its receipt
    have hmem : sent ∈ (earlier.attemptsOf id).map UInt32.toNat := by
      rw [reads.attempts, Fate.sent, List.mem_range'_1]
      omega
    rw [hanswers, hnone rfl, List.append_nil, List.map_map, List.mem_map] at hmem
    obtain ⟨⟨last, status⟩, hlast, hnumber⟩ := hmem
    have hword : last = attempt - 1 := UInt32.toNat_inj.1 (hnumber.trans hbefore.symm)
    exact ⟨status, reads.refuses rfl _ hlast, hword ▸ History.mem_answersOf.1 hlast⟩
  notAfterOk id attempt before earlier := by
    rintro ⟨later, rfl⟩ hmem
    obtain ⟨fate, hfate⟩ := fates id
    obtain ⟨now, hnow⟩ := History.exists_fate?_of_prefix hfate
    obtain ⟨sent, hresting, -⟩ := fate?_of_submitted hnow
    exact (Reads.of_fate? hresting).refuses rfl _ (History.mem_answersOf.2 hmem) rfl

end Disciplined

/-! ## What was submitted -/

namespace History

variable {cap : Nat} {history : History}

/-- How often a message was submitted. -/
theorem count_sent (history : History) (id : UInt64) :
    (history.sent.map Prod.fst).count id = (history.attemptsOf id).length := by
  rw [List.count_eq_countP, List.countP_map, attemptsOf, List.length_map,
    List.countP_eq_length_filter]
  exact congrArg List.length (List.filter_congr fun _ _ => rfl)

theorem mem_attemptsOf {id : UInt64} {attempt : UInt32} :
    attempt ∈ history.attemptsOf id ↔ (id, attempt) ∈ history.sent := by
  rw [attemptsOf, List.mem_map]
  constructor
  · rintro ⟨⟨id', attempt⟩, hmem, rfl⟩
    obtain ⟨hsent, hid⟩ := List.mem_filter.1 hmem
    obtain rfl : id' = id := by simpa using hid
    exact hsent
  · exact fun hsent => ⟨_, List.mem_filter.2 ⟨hsent, decide_eq_true rfl⟩, rfl⟩

/-- What was submitted is about messages that were begun. -/
theorem mem_minted_of_sent {cap : Nat} {submission : UInt64 × UInt32}
    (fates : ∀ id, ∃ fate, history.fate? cap id = some fate) (hmem : submission ∈ history.sent) :
    submission.1 ∈ history.minted := by
  obtain ⟨fate, hfate⟩ := fates submission.1
  have reads := Reads.of_fate? hfate
  by_contra hnot
  have hnone := reads.attempts
  rw [reads.minted.2 hnot, Fate.sent, List.range'_zero, List.map_eq_nil_iff] at hnone
  have hattempt := mem_attemptsOf.2 hmem
  rw [hnone] at hattempt
  exact List.not_mem_nil hattempt

/-- No message was submitted more often than it may be. -/
theorem length_sent_le (fates : ∀ id, ∃ fate, history.fate? cap id = some fate) :
    history.sent.length ≤ history.minted.length * max 1 cap := by
  have hcount : ∀ id, (history.sent.map Prod.fst).count id ≤ max 1 cap := by
    intro id
    obtain ⟨fate, hfate⟩ := fates id
    have reads := Reads.of_fate? hfate
    rw [count_sent, reads.length_attemptsOf]
    exact reads.bounded
  have hsubset : (history.sent.map Prod.fst).toFinset ⊆ history.minted.toFinset := by
    intro id hmem
    obtain ⟨submission, hsubmission, rfl⟩ := List.mem_map.1 (List.mem_toFinset.1 hmem)
    exact List.mem_toFinset.2 (mem_minted_of_sent fates hsubmission)
  calc history.sent.length = (history.sent.map Prod.fst).length := (List.length_map _).symm
    _ = ∑ id ∈ (history.sent.map Prod.fst).toFinset, (history.sent.map Prod.fst).count id :=
      (List.sum_toFinset_count_eq_length _).symm
    _ ≤ (history.sent.map Prod.fst).toFinset.card * max 1 cap :=
      Finset.sum_le_card_nsmul _ _ _ fun id _ => hcount id
    _ ≤ history.minted.length * max 1 cap :=
      Nat.mul_le_mul_right _
        ((Finset.card_le_card hsubset).trans (List.toFinset_card_le _))

end History

/-! ## When everything is accepted -/

section Accepted

variable {cap : Nat} {history : History} {id : UInt64}

/-- No message is accepted twice. -/
theorem nodup_completed (fates : ∀ id, ∃ fate, history.fate? cap id = some fate) :
    history.completed.Nodup := by
  rw [List.nodup_iff_count_le_one]
  intro id
  obtain ⟨fate, hfate⟩ := fates id
  have reads := Reads.of_fate? hfate
  rw [History.count_completed]
  cases haccepted : fate.isAccepted with
  | false =>
    rw [List.countP_eq_zero.2 fun answer hmem => by simpa using reads.refuses haccepted answer hmem]
    exact Nat.zero_le _
  | true =>
    obtain ⟨earlier, attempt, hanswers, hearlier⟩ := reads.accepts haccepted
    rw [hanswers, List.countP_append,
      List.countP_eq_zero.2 fun answer hmem => by simpa using hearlier answer hmem]
    exact Nat.le_refl 1

/-- The last receipt of a message that was accepted accepts it, and no other does. -/
theorem answersOf_of_completed (fates : ∀ id, ∃ fate, history.fate? cap id = some fate)
    (hmem : id ∈ history.completed) : ∃ earlier attempt,
      history.answersOf id = earlier ++ [(attempt, .ok)] ∧
        ∀ answer ∈ earlier, answer.2 ≠ WriteStatus.ok := by
  obtain ⟨fate, hfate⟩ := fates id
  have reads := Reads.of_fate? hfate
  cases haccepted : fate.isAccepted with
  | true => exact reads.accepts haccepted
  | false =>
    obtain ⟨attempt, hanswered⟩ := History.mem_completed.1 hmem
    exact absurd rfl (reads.refuses haccepted _ (History.mem_answersOf.2 hanswered))

theorem mem_minted_of_completed (fates : ∀ id, ∃ fate, history.fate? cap id = some fate)
    (hmem : id ∈ history.completed) : id ∈ history.minted := by
  obtain ⟨fate, hfate⟩ := fates id
  have reads := Reads.of_fate? hfate
  by_contra hnot
  rw [← reads.minted] at hnot
  obtain ⟨attempt, hanswered⟩ := History.mem_completed.1 hmem
  obtain ⟨waiting, hwaiting, -⟩ := reads.answers
  have hnone := reads.attempts
  rw [hnot, hwaiting, Fate.sent, List.range'_zero, List.map_eq_nil_iff, List.append_eq_nil_iff,
    List.map_eq_nil_iff] at hnone
  exact List.not_mem_nil (hnone.1 ▸ History.mem_answersOf.2 hanswered)

/-- If as many messages were accepted as ids were taken, then every one was accepted. -/
theorem mem_completed_of_length_eq
    (fates : ∀ id, ∃ fate, history.fate? cap id = some fate)
    (hlength : history.minted.length ≤ history.completed.length) (hmem : id ∈ history.minted) :
    id ∈ history.completed := by
  have hsub : history.completed.Subperm history.minted :=
    (nodup_completed fates).subperm fun id => mem_minted_of_completed fates
  exact (hsub.perm_of_length_le hlength).mem_iff.2 hmem

end Accepted

/-! ## Keeping track -/

/-- The messages that a producer has something to do with, and their fates. -/
structure Tracks (cap : Nat) (history : History) (stakes : List (UInt64 × Fate)) : Prop where
  /-- The fates are right, and open. -/
  fates : ∀ stake ∈ stakes, history.fate? cap stake.1 = some stake.2 ∧ stake.2.IsOpen
  /-- No other message is open. -/
  others : ∀ id, id ∉ stakes.map Prod.fst →
    ∃ fate, history.fate? cap id = some fate ∧ ¬ fate.IsOpen
  /-- No message is tracked twice. -/
  nodup : (stakes.map Prod.fst).Nodup

namespace Tracks

variable {cap : Nat} {history : History} {stakes more : List (UInt64 × Fate)} {id : UInt64}
  {fate after : Fate} {event : Event}

theorem nil : Tracks cap [] [] where
  fates := by simp
  others id _ := ⟨.unborn, rfl, by simp⟩
  nodup := List.nodup_nil

theorem exists_fate? (tracks : Tracks cap history stakes) (id : UInt64) :
    ∃ fate, history.fate? cap id = some fate := by
  by_cases hmem : id ∈ stakes.map Prod.fst
  · obtain ⟨stake, hstake, rfl⟩ := List.mem_map.1 hmem
    exact ⟨stake.2, (tracks.fates stake hstake).1⟩
  · obtain ⟨fate, hfate, -⟩ := tracks.others id hmem
    exact ⟨fate, hfate⟩

theorem perm (tracks : Tracks cap history stakes) (h : stakes.Perm more) :
    Tracks cap history more where
  fates stake hstake := tracks.fates stake (h.mem_iff.2 hstake)
  others id hid := tracks.others id fun hmem => hid ((h.map Prod.fst).mem_iff.1 hmem)
  nodup := (h.map Prod.fst).nodup_iff.1 tracks.nodup

/-- An id that is new is tracked from then on. -/
theorem mint (tracks : Tracks cap history stakes) (new : id ∉ history.minted) :
    Tracks cap (history ++ [.minted id]) ((id, .resting 0) :: stakes) := by
  have hunborn : history.fate? cap id = some .unborn := by
    obtain ⟨fate, hfate⟩ := tracks.exists_fate? id
    rw [hfate, (Reads.of_fate? hfate).minted.2 new]
  have hfree : id ∉ stakes.map Prod.fst := by
    intro hmem
    obtain ⟨stake, hstake, rfl⟩ := List.mem_map.1 hmem
    obtain ⟨hfate, hopen⟩ := tracks.fates stake hstake
    rw [hunborn] at hfate
    rw [← Option.some.inj hfate] at hopen
    exact hopen
  have hborn : History.fate? cap id (history ++ [.minted id]) = some (.resting 0) := by
    rw [History.fate?_snoc, hunborn]
    exact if_pos rfl
  have hother : ∀ other, other ≠ id →
      History.fate? cap other (history ++ [.minted id]) = history.fate? cap other :=
    fun other hne => History.fate?_snoc_of_ne (Ne.symm hne)
  refine ⟨?_, ?_, List.nodup_cons.2 ⟨hfree, tracks.nodup⟩⟩
  · intro stake hstake
    rcases List.mem_cons.1 hstake with rfl | hstake
    · exact ⟨hborn, trivial⟩
    · rw [hother stake.1 fun heq => hfree (heq ▸ List.mem_map_of_mem hstake)]
      exact tracks.fates stake hstake
  · intro other hmem
    rw [List.map_cons, List.mem_cons, not_or] at hmem
    rw [hother other hmem.1]
    exact tracks.others other hmem.2

/-- The first stake is no stake of the others. -/
theorem notMem_rest (tracks : Tracks cap history ((id, fate) :: stakes)) :
    id ∉ stakes.map Prod.fst :=
  (List.nodup_cons.1 tracks.nodup).1

/-- An event about the first stake leaves the others as they are. -/
theorem fates_rest (tracks : Tracks cap history ((id, fate) :: stakes)) (own : event.id = id)
    (stake : UInt64 × Fate) (hstake : stake ∈ stakes) :
    History.fate? cap stake.1 (history ++ [event]) = some stake.2 ∧ stake.2.IsOpen := by
  have hne : event.id ≠ stake.1 := by
    rw [own]
    rintro rfl
    exact tracks.notMem_rest (List.mem_map_of_mem hstake)
  rw [History.fate?_snoc_of_ne hne]
  exact tracks.fates stake (List.mem_cons_of_mem _ hstake)

/-- An event about the first stake leaves the messages alone that are not tracked. -/
theorem others_rest (tracks : Tracks cap history ((id, fate) :: stakes)) (own : event.id = id)
    {other : UInt64} (hne : other ≠ id) (hother : other ∉ stakes.map Prod.fst) :
    ∃ fate, History.fate? cap other (history ++ [event]) = some fate ∧ ¬ fate.IsOpen := by
  rw [History.fate?_snoc_of_ne (own ▸ hne.symm)]
  refine tracks.others other ?_
  rw [List.map_cons, List.mem_cons, not_or]
  exact ⟨hne, hother⟩

/-- The fate of the first stake after an event about it. -/
theorem fate?_first (tracks : Tracks cap history ((id, fate) :: stakes)) (own : event.id = id)
    (hnext : fate.next cap event = some after) :
    History.fate? cap id (history ++ [event]) = some after := by
  rw [History.fate?_snoc_of_eq own (tracks.fates _ List.mem_cons_self).1, hnext]

/-- A message stays tracked while it is open. -/
theorem keep (tracks : Tracks cap history ((id, fate) :: stakes)) (own : event.id = id)
    (hnext : fate.next cap event = some after) (hopen : after.IsOpen) :
    Tracks cap (history ++ [event]) ((id, after) :: stakes) where
  fates stake hstake := by
    rcases List.mem_cons.1 hstake with rfl | hstake
    · exact ⟨tracks.fate?_first own hnext, hopen⟩
    · exact tracks.fates_rest own stake hstake
  others other hother := by
    rw [List.map_cons, List.mem_cons, not_or] at hother
    exact tracks.others_rest own hother.1 hother.2
  nodup := tracks.nodup

/-- A message is not tracked any more when it is closed. -/
theorem close (tracks : Tracks cap history ((id, fate) :: stakes)) (own : event.id = id)
    (hnext : fate.next cap event = some after) (hclosed : ¬ after.IsOpen) :
    Tracks cap (history ++ [event]) stakes where
  fates := tracks.fates_rest own
  others other hother := by
    by_cases hne : other = id
    · exact ⟨after, hne ▸ tracks.fate?_first own hnext, hclosed⟩
    · exact tracks.others_rest own hne hother
  nodup := (List.nodup_cons.1 tracks.nodup).2

/-- The next attempt at a message that rests has a number of its own. -/
theorem toNat_succ {attempts : UInt32}
    (tracks : Tracks cap history ((id, .resting attempts.toNat) :: stakes)) (hcap : cap < 2 ^ 32) :
    (attempts + 1).toNat = attempts.toNat + 1 := by
  have hbelow := (Reads.of_fate? (tracks.fates _ List.mem_cons_self).1).below _ rfl
  rw [UInt32.toNat_add, UInt32.toNat_one, Nat.mod_eq_of_lt (by omega)]

/-- A message that is tracked and waits for its receipt has not been accepted. -/
theorem notMem_completed {sent : Nat} (tracks : Tracks cap history stakes)
    (hmem : (id, .aloft sent) ∈ stakes) : id ∉ history.completed := by
  intro hcompleted
  obtain ⟨attempt, hanswered⟩ := History.mem_completed.1 hcompleted
  exact (Reads.of_fate? (tracks.fates _ hmem).1).refuses rfl _
    (History.mem_answersOf.2 hanswered) rfl

/-- Where messages are tracked, they are sent in an orderly way. -/
theorem disciplined {maxAttempts : UInt32} (tracks : Tracks maxAttempts.toNat history stakes) :
    Disciplined maxAttempts history :=
  .of_fates tracks.exists_fate?

end Tracks
end Producer
end BrokerLoad
