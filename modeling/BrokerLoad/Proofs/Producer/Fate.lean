import BrokerLoad.Proofs.Producer.History
import Mathlib.Data.List.Nodup
import Mathlib.Data.List.Induction

/-!
# What becomes of a message

A message is taken an id for, submitted, refused, submitted again, and in the end accepted
or lost.  `Fate` is how far it has come, and `Fate.next` says which events may come next:
attempts are numbered one after another, a message is submitted only while no submission of
it is waiting for a receipt and only after the last one was refused, and never once it has
been accepted or sent as often as it may be.  `History.fate?` reads the events of one
message in order and is `none` as soon as one comes out of turn.

So that a history has a fate for every id is the whole discipline of sending, and what it
means for the attempts and receipts of a message is proved here once, for every history
and without any producer (`Reads.of_fate?`).
-/

namespace BrokerLoad
namespace Producer

/-- How far a message has come. -/
inductive Fate where
  /-- No id has been taken for it. -/
  | unborn
  /-- It has been sent so often, in vain, and may be sent again. -/
  | resting (sent : Nat)
  /-- It has been sent so often, and the last receipt is still to come. -/
  | aloft (sent : Nat)
  /-- It has been sent so often, and accepted. -/
  | accepted (sent : Nat)
  /-- It has been sent so often, and nothing more will come of it. -/
  | lost (sent : Nat)
  deriving DecidableEq

namespace Fate

/-- How often the message has been sent. -/
@[simp] def sent : Fate → Nat
  | .unborn => 0
  | .resting sent => sent
  | .aloft sent => sent
  | .accepted sent => sent
  | .lost sent => sent

/-- Whether a producer still has something to do with the message. -/
@[simp] def IsOpen : Fate → Prop
  | .resting _ => True
  | .aloft _ => True
  | _ => False

/-- Whether a receipt for the message may be missing. -/
@[simp] def waits : Fate → Bool
  | .aloft _ => true
  | .lost _ => true
  | _ => false

/-- Whether the message has been accepted. -/
@[simp] def isAccepted : Fate → Bool
  | .accepted _ => true
  | _ => false

/-- What an event makes of the fate of its message, if it comes in turn. -/
def next (cap : Nat) : Fate → Event → Option Fate
  | .unborn, .minted _ => some (.resting 0)
  | .resting sent, .submitted _ attempt =>
    if attempt.toNat = sent + 1 then some (.aloft (sent + 1)) else none
  | .resting sent, .unsent _ attempt =>
    if attempt.toNat = sent + 1 then some (.lost sent) else none
  | .resting sent, .dropped _ attempt =>
    if attempt.toNat = sent then some (.lost sent) else none
  | .aloft sent, .answered _ attempt status =>
    if attempt.toNat = sent then
      some (if status = .ok then .accepted sent
        else if sent < cap then .resting sent
        else .lost sent)
    else none
  | .aloft sent, .spoiled _ attempt =>
    if attempt.toNat = sent then some (.lost sent) else none
  | .aloft sent, .abandoned _ attempt =>
    if attempt.toNat = sent then some (.lost sent) else none
  | _, _ => none

variable {cap sent : Nat} {id : UInt64} {attempt : UInt32} {status : WriteStatus}

/-- The next attempt at a message that rests. -/
theorem next_submitted (hattempt : attempt.toNat = sent + 1) :
    (resting sent).next cap (.submitted id attempt) = some (.aloft attempt.toNat) := by
  rw [hattempt]
  exact if_pos hattempt

/-- The next attempt at a message that rests, if the client does not take it on. -/
theorem next_unsent (hattempt : attempt.toNat = sent + 1) :
    (resting sent).next cap (.unsent id attempt) = some (.lost sent) :=
  if_pos hattempt

/-- The receipt that accepts a message. -/
theorem next_accepted :
    (aloft attempt.toNat).next cap (.answered id attempt .ok) = some (.accepted attempt.toNat) :=
  if_pos rfl

/-- A receipt that refuses a message that may be sent again. -/
theorem next_refused (refused : status ≠ .ok) (below : attempt.toNat < cap) :
    (aloft attempt.toNat).next cap (.answered id attempt status) =
      some (.resting attempt.toNat) := by
  simp [next, refused, below]

/-- A receipt that refuses a message that may not be sent again. -/
theorem next_exhausted (refused : status ≠ .ok) (exhausted : cap ≤ attempt.toNat) :
    (aloft attempt.toNat).next cap (.answered id attempt status) = some (.lost attempt.toNat) := by
  simp [next, refused, Nat.not_lt.2 exhausted]

end Fate

namespace History

/-- The fate of an id after a history, if all its events came in turn. -/
def fate? (cap : Nat) (id : UInt64) (history : History) : Option Fate :=
  history.foldl
    (fun fate event => fate.bind fun fate =>
      if event.id = id then fate.next cap event else some fate)
    (some .unborn)

variable {cap : Nat} {id : UInt64} {history : History} {event : Event}

theorem fate?_snoc (history : History) (event : Event) :
    fate? cap id (history ++ [event]) = (fate? cap id history).bind fun fate =>
      if event.id = id then fate.next cap event else some fate := by
  simp [fate?, List.foldl_append]

/-- An event about another message leaves a fate alone. -/
theorem fate?_snoc_of_ne (other : event.id ≠ id) :
    fate? cap id (history ++ [event]) = fate? cap id history := by
  rw [fate?_snoc]
  cases fate? cap id history <;> simp [other]

/-- An event of its own brings a fate further. -/
theorem fate?_snoc_of_eq {fate : Fate} (own : event.id = id)
    (hfate : fate? cap id history = some fate) :
    fate? cap id (history ++ [event]) = fate.next cap event := by
  rw [fate?_snoc, hfate]
  simp [own]

/-- What is in turn has always been in turn. -/
theorem exists_fate?_of_prefix {earlier later : History} {fate : Fate}
    (hfate : fate? cap id (earlier ++ later) = some fate) :
    ∃ before, fate? cap id earlier = some before := by
  induction later using List.reverseRecOn generalizing fate with
  | nil => exact ⟨fate, by simpa using hfate⟩
  | append_singleton later event ih =>
    rw [← List.append_assoc, fate?_snoc] at hfate
    obtain ⟨before, hbefore, -⟩ := Option.bind_eq_some_iff.1 hfate
    exact ih hbefore

end History

/-! ## What a fate says about a history -/

/-- What the events of a message look like, by its fate. -/
structure Reads (cap : Nat) (id : UInt64) (history : History) (fate : Fate) : Prop where
  /-- An id was taken for it, unless it is unborn. -/
  minted : fate = .unborn ↔ id ∉ history.minted
  /-- Its attempts are numbered one after another. -/
  attempts : (history.attemptsOf id).map UInt32.toNat = List.range' 1 fate.sent
  /-- It is not sent more often than it may be. -/
  bounded : fate.sent ≤ max 1 cap
  /-- It rests only if it may be sent again. -/
  below : ∀ sent, fate = .resting sent → sent = 0 ∨ sent < cap
  /-- The receipts are for the attempts, in order, and at most the last one is missing. -/
  answers : ∃ waiting, history.attemptsOf id = (history.answersOf id).map Prod.fst ++ waiting ∧
    waiting.length ≤ 1 ∧ (fate.waits = false → waiting = [])
  /-- It is missing while the message is aloft. -/
  aloft : ∀ sent, fate = .aloft sent →
    (history.answersOf id).length + 1 = (history.attemptsOf id).length
  /-- The last receipt of an accepted message accepts it, and no other does. -/
  accepts : fate.isAccepted = true → ∃ earlier attempt,
    history.answersOf id = earlier ++ [(attempt, .ok)] ∧
      ∀ answer ∈ earlier, answer.2 ≠ WriteStatus.ok
  /-- No receipt of any other message accepts it. -/
  refuses : fate.isAccepted = false → ∀ answer ∈ history.answersOf id, answer.2 ≠ WriteStatus.ok

namespace Reads

variable {cap : Nat} {id : UInt64} {history : History} {event : Event} {fate after : Fate}

theorem nil : Reads cap id [] .unborn where
  minted := by simp
  attempts := rfl
  bounded := Nat.zero_le _
  below := by simp
  answers := ⟨[], rfl, Nat.zero_le _, fun _ => rfl⟩
  aloft := by simp
  accepts := by simp
  refuses := by simp [History.answersOf]

theorem snoc_of_ne (reads : Reads cap id history fate) (other : event.id ≠ id) :
    Reads cap id (history ++ [event]) fate := by
  have hattempts : History.attemptsOf (history ++ [event]) id = history.attemptsOf id := by
    rw [History.attemptsOf_append, History.attemptsOf_of_ne other, List.append_nil]
  have hanswers : History.answersOf (history ++ [event]) id = history.answersOf id := by
    rw [History.answersOf_append, History.answersOf_of_ne other, List.append_nil]
  refine ⟨?_, ?_, reads.bounded, reads.below, ?_, ?_, ?_, ?_⟩
  · rw [reads.minted, History.minted_append, List.mem_append]
    cases event <;> simp_all [Event.id, eq_comm]
  · rw [hattempts, reads.attempts]
  · rw [hattempts, hanswers]
    exact reads.answers
  · rw [hattempts, hanswers]
    exact reads.aloft
  · rw [hanswers]
    exact reads.accepts
  · rw [hanswers]
    exact reads.refuses

theorem snoc_minted (reads : Reads cap id history .unborn) :
    Reads cap id (history ++ [.minted id]) (.resting 0) where
  minted := by simp
  attempts := by simpa [History.attemptsOf] using reads.attempts
  bounded := Nat.zero_le _
  below := by simp
  answers := by simpa [History.attemptsOf, History.answersOf] using reads.answers
  aloft := by simp
  accepts := by simp
  refuses := by simpa [History.answersOf] using reads.refuses

theorem snoc_submitted {sent : Nat} {attempt : UInt32}
    (reads : Reads cap id history (.resting sent)) (hattempt : attempt.toNat = sent + 1) :
    Reads cap id (history ++ [.submitted id attempt]) (.aloft (sent + 1)) := by
  have hmore : History.attemptsOf (history ++ [.submitted id attempt]) id =
      history.attemptsOf id ++ [attempt] := by
    simp [History.attemptsOf]
  have hsame : History.answersOf (history ++ [.submitted id attempt]) id =
      history.answersOf id := by
    simp [History.answersOf]
  obtain ⟨waiting, hanswers, -, hnone⟩ := reads.answers
  refine ⟨?_, ?_, ?_, by simp, ⟨[attempt], ?_, by simp, by simp⟩, ?_, by simp, ?_⟩
  · simpa using reads.minted
  · rw [hmore, List.map_append, reads.attempts, Fate.sent, Fate.sent, List.range'_concat]
    simp [hattempt, Nat.add_comm]
  · have := reads.below sent rfl
    simp only [Fate.sent]
    omega
  · rw [hmore, hsame, hanswers, hnone rfl, List.append_nil]
  · rw [hmore, hsame, hanswers, hnone rfl]
    simp
  · rw [hsame]
    exact fun _ => reads.refuses rfl

/-- The attempt that a message aloft waits for is its last. -/
theorem eq_append_of_aloft {sent : Nat} {attempt : UInt32}
    (reads : Reads cap id history (.aloft sent)) (hattempt : attempt.toNat = sent) :
    history.attemptsOf id = (history.answersOf id).map Prod.fst ++ [attempt] := by
  obtain ⟨waiting, hwaiting, -, -⟩ := reads.answers
  have hlength := reads.aloft sent rfl
  have hnumbers := reads.attempts
  rw [hwaiting] at hlength hnumbers ⊢
  have hone : waiting.length = 1 := by simpa using hlength.symm
  obtain ⟨last, rfl⟩ := List.length_eq_one_iff.1 hone
  have hcount := congrArg List.length hnumbers
  have hlast := congrArg List.getLast? hnumbers
  simp only [List.map_append, List.map_map, List.length_append, List.length_map, List.map_cons,
    List.map_nil, List.length_singleton, Fate.sent, List.length_range'] at hcount
  rw [← hcount, Fate.sent, List.range'_concat] at hlast
  have hword : last.toNat = attempt.toNat := by
    simp only [List.map_append, List.map_cons, List.map_nil, List.getLast?_append,
      List.getLast?_singleton, Option.some_or, Option.some.injEq] at hlast
    omega
  rw [UInt32.toNat_inj.1 hword]

/-- Collecting the receipt of a message that is waiting for it. -/
theorem snoc_answered {sent : Nat} {attempt : UInt32} {status : WriteStatus}
    (reads : Reads cap id history (.aloft sent))
    (hafter : after = if status = .ok then .accepted sent
      else if sent < cap then .resting sent else .lost sent)
    (hattempt : attempt.toNat = sent) :
    Reads cap id (history ++ [.answered id attempt status]) after := by
  have hmore : History.answersOf (history ++ [.answered id attempt status]) id =
      history.answersOf id ++ [(attempt, status)] := by
    simp [History.answersOf]
  have hsame : History.attemptsOf (history ++ [.answered id attempt status]) id =
      history.attemptsOf id := by
    simp [History.attemptsOf]
  have hminted : History.minted (history ++ [.answered id attempt status]) = history.minted := by
    simp
  have hsent : after.sent = sent := by rw [hafter]; split_ifs <;> rfl
  have hborn : after ≠ .unborn := by rw [hafter]; split_ifs <;> simp
  have hlanded : ∀ n, after ≠ .aloft n := by rw [hafter]; split_ifs <;> simp
  refine ⟨?_, ?_, ?_, ?_, ⟨[], ?_, by simp, by simp⟩, ?_, ?_, ?_⟩
  · rw [hminted]
    simpa [hborn] using reads.minted
  · rw [hsame, hsent]
    exact reads.attempts
  · rw [hsent]
    exact reads.bounded
  · intro n hn
    rw [hn] at hafter
    split_ifs at hafter with hok hcap
    rw [Fate.resting.inj hafter]
    exact Or.inr hcap
  · rw [hsame, hmore, reads.eq_append_of_aloft hattempt]
    simp
  · exact fun n hn => absurd hn (hlanded n)
  · intro haccepted
    split_ifs at hafter with hok hcap
    · rw [hmore, hok]
      exact ⟨_, attempt, rfl, reads.refuses rfl⟩
    · rw [hafter] at haccepted
      exact absurd haccepted (by simp)
    · rw [hafter] at haccepted
      exact absurd haccepted (by simp)
  · intro hrefused answer hanswer
    rw [hmore, List.mem_append, List.mem_singleton] at hanswer
    rcases hanswer with hearlier | rfl
    · exact reads.refuses rfl answer hearlier
    · intro hok
      rw [if_pos hok] at hafter
      rw [hafter] at hrefused
      exact absurd hrefused (by simp)

/-- A message that was not accepted and that nothing more will come of. -/
theorem snoc_lost (reads : Reads cap id history fate) (hborn : fate ≠ .unborn)
    (hopen : fate.isAccepted = false)
    (hminted : History.minted (history ++ [event]) = history.minted)
    (hattempts : History.attemptsOf (history ++ [event]) id = history.attemptsOf id)
    (hanswers : History.answersOf (history ++ [event]) id = history.answersOf id) :
    Reads cap id (history ++ [event]) (.lost fate.sent) := by
  obtain ⟨waiting, hwaiting, hlength, -⟩ := reads.answers
  refine ⟨?_, ?_, reads.bounded, by simp, ⟨waiting, ?_, hlength, by simp⟩, by simp,
    by simp, ?_⟩
  · rw [hminted]
    simpa [hborn] using reads.minted
  · rw [hattempts]
    exact reads.attempts
  · rw [hattempts, hanswers, hwaiting]
  · rw [hanswers]
    exact fun _ => reads.refuses hopen

theorem snoc_of_eq (reads : Reads cap id history fate) (own : event.id = id)
    (hnext : fate.next cap event = some after) : Reads cap id (history ++ [event]) after := by
  subst own
  cases fate with
  | unborn =>
    cases event with
    | minted id =>
      cases hnext
      exact reads.snoc_minted
    | _ => simp [Fate.next] at hnext
  | resting sent =>
    cases event with
    | submitted id attempt =>
      rw [Fate.next, Option.ite_none_right_eq_some] at hnext
      obtain ⟨hattempt, ⟨⟩⟩ := hnext
      exact reads.snoc_submitted hattempt
    | unsent id attempt =>
      rw [Fate.next, Option.ite_none_right_eq_some] at hnext
      obtain ⟨-, ⟨⟩⟩ := hnext
      exact reads.snoc_lost (by simp) rfl (by simp) (by simp [History.attemptsOf])
        (by simp [History.answersOf])
    | dropped id attempt =>
      rw [Fate.next, Option.ite_none_right_eq_some] at hnext
      obtain ⟨-, ⟨⟩⟩ := hnext
      exact reads.snoc_lost (by simp) rfl (by simp) (by simp [History.attemptsOf])
        (by simp [History.answersOf])
    | _ => simp [Fate.next] at hnext
  | aloft sent =>
    cases event with
    | answered id attempt status =>
      rw [Fate.next, Option.ite_none_right_eq_some, Option.some.injEq] at hnext
      exact reads.snoc_answered hnext.2.symm hnext.1
    | spoiled id attempt =>
      rw [Fate.next, Option.ite_none_right_eq_some] at hnext
      obtain ⟨-, ⟨⟩⟩ := hnext
      exact reads.snoc_lost (by simp) rfl (by simp) (by simp [History.attemptsOf])
        (by simp [History.answersOf])
    | abandoned id attempt =>
      rw [Fate.next, Option.ite_none_right_eq_some] at hnext
      obtain ⟨-, ⟨⟩⟩ := hnext
      exact reads.snoc_lost (by simp) rfl (by simp) (by simp [History.attemptsOf])
        (by simp [History.answersOf])
    | _ => simp [Fate.next] at hnext
  | accepted sent => cases event <;> simp [Fate.next] at hnext
  | lost sent => cases event <;> simp [Fate.next] at hnext

theorem length_attemptsOf (reads : Reads cap id history fate) :
    (history.attemptsOf id).length = fate.sent := by
  rw [← List.length_map (f := UInt32.toNat), reads.attempts, List.length_range']

/-- A fate says what it should of every history that it is the fate of. -/
theorem of_fate? {history : History} {fate : Fate} (hfate : history.fate? cap id = some fate) :
    Reads cap id history fate := by
  induction history using List.reverseRecOn generalizing fate with
  | nil =>
    cases hfate
    exact nil
  | append_singleton history event ih =>
    by_cases own : event.id = id
    · obtain ⟨before, hbefore⟩ := History.exists_fate?_of_prefix hfate
      rw [History.fate?_snoc_of_eq own hbefore] at hfate
      exact (ih hbefore).snoc_of_eq own hfate
    · rw [History.fate?_snoc_of_ne own] at hfate
      exact (ih hfate).snoc_of_ne own

end Reads

end Producer
end BrokerLoad
