import BrokerLoad.Producer.Pipelined
import Mathlib.Data.Nat.Count

/-!
# Which submission repeats which

A pipelined producer that is left to itself takes the receipts in the order of the submissions.
So if it is known which submissions are refused, then it is known beforehand which submission
repeats which.  When it takes the receipt of a submission, either its window is full or it has
nothing new to send; and in the latter case it has made one submission for every message and one
for every refusal that it has heard of.  So `repeatOf` is the number of the submission that is
made next.

A message is submitted for the last time if that many submissions, each the repeat of the one
before, are all refused (`Exhausts`).  What number an attempt is, `IsAttempt` says by going back
from one submission to the one that it repeats.  The two are the same seen from the two ends
(`IsAttempt.exhausts`, `not_exhausts`).

Submissions are numbered from 0, in the order in which they are made.
-/

namespace BrokerLoad
namespace Producer

variable (refused : Nat → Prop) [DecidablePred refused] (window messages : Nat)

/-- As which submission the refused submission of a number is repeated. -/
def repeatOf (number : Nat) : Nat := min (number + window) (messages + Nat.count refused number)

/-- Whether the submission of a number is made, one for every message and one for every refusal
before it. -/
def IsMade (number : Nat) : Prop := number < messages + Nat.count refused number

instance : DecidablePred (IsMade refused messages) :=
  fun number => inferInstanceAs (Decidable (number < messages + Nat.count refused number))

/-- Whether so many submissions of one message in a row are refused. -/
def Exhausts (attempts : Nat) : Prop :=
  ∃ first, IsMade refused messages first ∧
    ∀ retry < attempts, refused ((repeatOf refused window messages)^[retry] first)

/-- The submission of a number is the so-manieth of its message. -/
inductive IsAttempt : Nat → Nat → Prop
  /-- It repeats none. -/
  | first {number : Nat}
    (new : ∀ earlier, refused earlier → repeatOf refused window messages earlier ≠ number) :
    IsAttempt number 1
  /-- It repeats one that was refused. -/
  | again {number attempt : Nat} (earlier : IsAttempt number attempt) (again : refused number) :
    IsAttempt (repeatOf refused window messages number) (attempt + 1)

variable {refused window messages} {number other attempt attempts : Nat}

/-! ## What is made -/

/-- Between two submissions there are no more refusals than submissions. -/
theorem count_le_count_add (refused : Nat → Prop) [DecidablePred refused] (le : number ≤ other) :
    Nat.count refused other ≤ Nat.count refused number + (other - number) := by
  obtain ⟨more, rfl⟩ := Nat.exists_eq_add_of_le le
  rw [Nat.count_add, Nat.add_sub_cancel_left]
  exact Nat.add_le_add_left (Nat.count_le _) _

/-- What was made before a submission that is made is made. -/
theorem IsMade.of_le (made : IsMade refused messages other) (le : number ≤ other) :
    IsMade refused messages number := by
  have hcount := count_le_count_add refused le
  rw [IsMade] at made ⊢
  omega

/-- When there are no more messages and refusals than submissions, all are made. -/
theorem IsMade.lt {total : Nat} (made : IsMade refused messages number)
    (all : total = messages + Nat.count refused total) : number < total := by
  by_contra hle
  exact Nat.lt_irrefl _ (lt_of_lt_of_eq (made.of_le (Nat.not_lt.1 hle)) all.symm)

/-! ## Repeats -/

theorem repeatOf_mono (refused : Nat → Prop) [DecidablePred refused] (window messages : Nat)
    (le : number ≤ other) :
    repeatOf refused window messages number ≤ repeatOf refused window messages other := by
  have hcount := Nat.count_monotone refused le
  rw [repeatOf, repeatOf]
  omega

/-- What is refused first is repeated first. -/
theorem repeatOf_lt_repeatOf (again : refused number) (lt : number < other) :
    repeatOf refused window messages number < repeatOf refused window messages other := by
  have hcount := Nat.count_strict_mono again lt
  rw [repeatOf, repeatOf]
  omega

/-- A submission repeats one other at most. -/
theorem repeatOf_inj (again : refused number) (again' : refused other)
    (same : repeatOf refused window messages number = repeatOf refused window messages other) :
    number = other := by
  rcases Nat.lt_trichotomy number other with hlt | heq | hgt
  · exact absurd same (Nat.ne_of_lt (repeatOf_lt_repeatOf again hlt))
  · exact heq
  · exact absurd same (Nat.ne_of_gt (repeatOf_lt_repeatOf again' hgt))

/-- A submission is repeated after it was made. -/
theorem IsMade.lt_repeatOf (made : IsMade refused messages number) (room : 0 < window) :
    number < repeatOf refused window messages number := by
  rw [IsMade] at made
  rw [repeatOf]
  omega

/-- What was refused is made once more. -/
theorem IsMade.of_refused (made : IsMade refused messages number) (room : 0 < window)
    (again : refused number) :
    IsMade refused messages (repeatOf refused window messages number) := by
  have hcount := Nat.count_strict_mono again (made.lt_repeatOf room)
  have hle : repeatOf refused window messages number ≤ messages + Nat.count refused number :=
    Nat.min_le_right _ _
  rw [IsMade]
  omega

/-- What is repeated was made. -/
theorem IsMade.of_repeatOf
    (made : IsMade refused messages (repeatOf refused window messages number)) :
    IsMade refused messages number := by
  refine made.of_le (Nat.le_of_not_lt fun hlt => ?_)
  have hcount := Nat.count_monotone refused (Nat.le_of_lt hlt)
  have hrepeat : repeatOf refused window messages number =
      messages + Nat.count refused number := by
    rw [repeatOf] at hlt ⊢
    omega
  rw [IsMade] at made
  omega

/-! ## Attempts -/

namespace IsAttempt

theorem pos (isAttempt : IsAttempt refused window messages number attempt) : 0 < attempt := by
  cases isAttempt <;> exact Nat.succ_pos _

/-- The repeat of a submission is the next attempt at its message. -/
theorem of_repeatOf (again : refused number)
    (isAttempt : IsAttempt refused window messages (repeatOf refused window messages number)
      attempts) :
    ∃ attempt, attempts = attempt + 1 ∧ IsAttempt refused window messages number attempt := by
  generalize hrepeat : repeatOf refused window messages number = next at isAttempt
  cases isAttempt with
  | first new => exact absurd hrepeat (new number again)
  | again earlier again' =>
    obtain rfl := repeatOf_inj again again' hrepeat
    exact ⟨_, rfl, earlier⟩

/-- The attempts at a message lead from its first submission to the last one. -/
theorem exists_first (isAttempt : IsAttempt refused window messages number attempt) :
    ∃ first, (repeatOf refused window messages)^[attempt - 1] first = number ∧
      ∀ retry < attempt - 1, refused ((repeatOf refused window messages)^[retry] first) := by
  induction isAttempt with
  | first new => exact ⟨_, rfl, fun _ hlt => absurd hlt (Nat.not_lt_zero _)⟩
  | @again number attempt earlier again ih =>
    obtain ⟨first, hnumber, hearlier⟩ := ih
    have hattempt : attempt + 1 - 1 = attempt - 1 + 1 := by
      have hpos := earlier.pos
      omega
    refine ⟨first, ?_, fun retry hretry => ?_⟩
    · rw [hattempt, Function.iterate_succ_apply', hnumber]
    · rcases Nat.lt_or_ge retry (attempt - 1) with hlt | hge
      · exact hearlier retry hlt
      · obtain rfl : retry = attempt - 1 := by omega
        rwa [hnumber]

end IsAttempt

/-- What a chain of repeats leads to was made only if the first of them was. -/
theorem IsMade.of_iterate (retries : Nat)
    (made : IsMade refused messages ((repeatOf refused window messages)^[retries] number)) :
    IsMade refused messages number := by
  induction retries with
  | zero => exact made
  | succ retries ih =>
    rw [Function.iterate_succ_apply'] at made
    exact ih made.of_repeatOf

/-- A message at which so many attempts are made in vain is submitted for the last time. -/
theorem IsAttempt.exhausts (isAttempt : IsAttempt refused window messages number attempt)
    (made : IsMade refused messages number) (again : refused number) (le : attempts ≤ attempt) :
    Exhausts refused window messages attempts := by
  obtain ⟨first, rfl, hearlier⟩ := isAttempt.exists_first
  refine ⟨first, IsMade.of_iterate _ made, fun retry hretry => ?_⟩
  rcases Nat.lt_or_ge retry (attempt - 1) with hlt | hge
  · exact hearlier retry hlt
  · obtain rfl : retry = attempt - 1 := by omega
    exact again

/-- If every submission that is refused has a number of attempts below some bound, then no message
is refused so often. -/
theorem not_exhausts {total : Nat} (room : 0 < window) (positive : 0 < attempts)
    (all : total = messages + Nat.count refused total)
    (below : ∀ number < total, refused number →
      ∃ attempt < attempts, IsAttempt refused window messages number attempt) :
    ¬ Exhausts refused window messages attempts := by
  rintro ⟨first, made, hrefused⟩
  have hmade : ∀ retry < attempts,
      IsMade refused messages ((repeatOf refused window messages)^[retry] first) := by
    intro retry hretry
    induction retry with
    | zero => exact made
    | succ retry ih =>
      have hbefore := Nat.lt_of_succ_lt hretry
      rw [Function.iterate_succ_apply']
      exact (ih hbefore).of_refused room (hrefused retry hbefore)
  have hlate : ∀ retry < attempts, ∀ attempt,
      IsAttempt refused window messages ((repeatOf refused window messages)^[retry] first)
        attempt → retry < attempt := by
    intro retry hretry
    induction retry with
    | zero => exact fun attempt isAttempt => isAttempt.pos
    | succ retry ih =>
      intro attempt isAttempt
      have hbefore := Nat.lt_of_succ_lt hretry
      rw [Function.iterate_succ_apply'] at isAttempt
      obtain ⟨earlier, rfl, hearlier⟩ := IsAttempt.of_repeatOf (hrefused retry hbefore) isAttempt
      exact Nat.succ_lt_succ (ih hbefore earlier hearlier)
  have hlast : attempts - 1 < attempts := Nat.sub_one_lt_of_lt positive
  obtain ⟨attempt, hbelow, isAttempt⟩ :=
    below _ ((hmade _ hlast).lt all) (hrefused _ hlast)
  have hmore := hlate _ hlast attempt isAttempt
  omega

end Producer
end BrokerLoad
