import BrokerLoad.Proofs.Broker.Desk
import Mathlib.Algebra.Order.Group.Nat
import Mathlib.Data.List.Chain
import Mathlib.Data.Nat.Factorization.Basic

/-!
# The pace of a hub

A hub refuses every so-manieth write that it admits, and what becomes of a write depends on
its number only.  So the verdicts passed on so many writes are a list that is known in advance,
wherever in a round the first of them is (`paceAfter`), and it can be counted how many of them are
refusals: as many as there are multiples of the pace among their numbers (`count_paceAfter`).  At a
pace of two or more no two of them in succession are (`isChain_paceAfter`).

From the beginning (`pace`) their number is a quotient.  If the last verdict was in favour, then
it can be told from the number of writes accepted as well (`throttled_eq`).  Between two refusals
there is a fixed number of writes that are accepted, so all refusals but those that nothing
follows are accounted for, and there are none that nothing follows.

Writes are counted by a word.  The hub loses count once the word is used up, and all of this
holds as long as it does not.
-/

namespace BrokerLoad
namespace Hub

/-- What becomes of the admitted write of a number. -/
def paceAt (throttleEvery : UInt32) (number : UInt64) : WriteStatus :=
  if throttleEvery ≠ 0 ∧ number % throttleEvery.toUInt64 = 0 then .throttled else .ok

theorem Desk.nextStatus_eq (desk : Desk) :
    desk.nextStatus = paceAt desk.throttleEvery (desk.writes + 1) := rfl

theorem paceAt_cases (throttleEvery : UInt32) (number : UInt64) :
    paceAt throttleEvery number = .ok ∨ paceAt throttleEvery number = .throttled := by
  rw [paceAt]
  split
  · exact .inr rfl
  · exact .inl rfl

/-- While the count is not lost, every multiple of the pace is throttled. -/
theorem paceAt_eq_throttled_iff {throttleEvery : UInt32} (positive : throttleEvery ≠ 0)
    {number : Nat} (few : number < 2 ^ 64) :
    paceAt throttleEvery (UInt64.ofNat number) = .throttled ↔ throttleEvery.toNat ∣ number := by
  have hzero : UInt64.ofNat number % throttleEvery.toUInt64 = 0 ↔
      number % throttleEvery.toNat = 0 := by
    rw [← UInt64.toNat_inj, UInt64.toNat_mod, UInt64.toNat_ofNat_of_lt' few]
    rfl
  rw [Nat.dvd_iff_mod_eq_zero, ← hzero, paceAt]
  simp [positive]

theorem ne_zero_of_two_le {throttleEvery : UInt32} (two : 2 ≤ throttleEvery.toNat) :
    throttleEvery ≠ 0 := by
  rintro rfl
  exact absurd two (by decide)

/-! ## In the middle of a round -/

/-- What becomes of so many admitted writes, after so many others. -/
def paceAfter (throttleEvery : UInt32) (first total : Nat) : List WriteStatus :=
  (List.range total).map fun number => paceAt throttleEvery (UInt64.ofNat (first + number + 1))

/-- How many multiples of the pace there are among so many numbers, after so many others. -/
def multiples (throttleEvery : UInt32) (first total : Nat) : Nat :=
  ((Finset.Ioc first (first + total)).filter (throttleEvery.toNat ∣ ·)).card

section PaceAfter

variable (throttleEvery : UInt32) (first total : Nat)

@[simp] theorem length_paceAfter : (paceAfter throttleEvery first total).length = total := by
  rw [paceAfter, List.length_map, List.length_range]

theorem paceAfter_succ : paceAfter throttleEvery first (total + 1) =
    paceAfter throttleEvery first total ++
      [paceAt throttleEvery (UInt64.ofNat (first + total + 1))] := by
  rw [paceAfter, List.range_succ, List.map_append, List.map_singleton, paceAfter]

/-- A write that is admitted is accepted or throttled. -/
theorem count_ok_add_count_paceAfter : (paceAfter throttleEvery first total).count .ok +
    (paceAfter throttleEvery first total).count .throttled = total := by
  induction total with
  | zero => rfl
  | succ total ih =>
    have hone : ∀ status : WriteStatus, status = .ok ∨ status = .throttled →
        [status].count .ok + [status].count .throttled = 1 := by
      rintro status (rfl | rfl) <;> rfl
    have hlast := hone _ (paceAt_cases throttleEvery (UInt64.ofNat (first + total + 1)))
    rw [paceAfter_succ, List.count_append, List.count_append]
    omega

theorem multiples_succ : multiples throttleEvery first (total + 1) =
    multiples throttleEvery first total +
      if throttleEvery.toNat ∣ first + total + 1 then 1 else 0 := by
  have hnew : first + total + 1 ∉ Finset.Ioc first (first + total) := by
    rw [Finset.mem_Ioc]
    omega
  have hinsert : Finset.Ioc first (first + (total + 1)) =
      insert (first + total + 1) (Finset.Ioc first (first + total)) := by
    ext number
    simp only [Finset.mem_Ioc, Finset.mem_insert]
    omega
  rw [multiples, hinsert, Finset.filter_insert, multiples]
  split
  · rw [Finset.card_insert_of_notMem fun hmem => hnew (Finset.mem_of_mem_filter _ hmem)]
  · rfl

variable {throttleEvery first total}

/-- The writes that are throttled are those with a multiple of the pace for a number. -/
theorem count_paceAfter (positive : throttleEvery ≠ 0) (few : first + total < 2 ^ 64) :
    (paceAfter throttleEvery first total).count .throttled =
      multiples throttleEvery first total := by
  induction total with
  | zero => simp [paceAfter, multiples]
  | succ total ih =>
    have hnext : paceAt throttleEvery (UInt64.ofNat (first + total + 1)) = .throttled ↔
        throttleEvery.toNat ∣ first + total + 1 := paceAt_eq_throttled_iff positive few
    rw [paceAfter_succ, List.count_append, ih (by omega), multiples_succ, List.count_singleton]
    congr 1
    by_cases hdvd : throttleEvery.toNat ∣ first + total + 1
    · rw [if_pos hdvd, hnext.2 hdvd]
      rfl
    · rw [if_neg hdvd, if_neg]
      rw [beq_iff_eq]
      exact fun h => hdvd (hnext.1 h)

/-- A write that is throttled is followed by one that is not. -/
theorem isChain_paceAfter (two : 2 ≤ throttleEvery.toNat) (few : first + total < 2 ^ 64) :
    (paceAfter throttleEvery first total).IsChain fun earlier later =>
      earlier = .ok ∨ later = .ok := by
  rw [List.isChain_iff_getElem]
  intro number hlt
  rw [length_paceAfter] at hlt
  have hpositive := ne_zero_of_two_le two
  by_contra hrefused
  rw [not_or] at hrefused
  have hthrottled : ∀ number < total, (paceAfter throttleEvery first total)[number]? ≠ some .ok →
      throttleEvery.toNat ∣ first + number + 1 := by
    intro number hlt hnot
    rw [paceAfter, List.getElem?_map, List.getElem?_range hlt] at hnot
    exact (paceAt_eq_throttled_iff hpositive (by omega)).1
      ((paceAt_cases _ _).resolve_left fun hok => hnot (congrArg some hok))
  have hearlier := hthrottled number (by omega) fun hok =>
    hrefused.1 (List.getElem_of_getElem? hok).2
  have hlater := hthrottled (number + 1) hlt fun hok =>
    hrefused.2 (List.getElem_of_getElem? hok).2
  have hone : throttleEvery.toNat ∣ 1 := by
    rw [← Nat.dvd_add_right hearlier]
    exact hlater
  exact absurd (Nat.le_of_dvd Nat.one_pos hone) (by omega)

end PaceAfter

/-! ## From the beginning -/

/-- What becomes of the first so many admitted writes. -/
def pace (throttleEvery : UInt32) (total : Nat) : List WriteStatus :=
  (List.range total).map fun number => paceAt throttleEvery (UInt64.ofNat (number + 1))

section Pace

variable (throttleEvery : UInt32) (total : Nat)

theorem pace_eq_paceAfter : pace throttleEvery total = paceAfter throttleEvery 0 total := by
  simp only [pace, paceAfter, Nat.zero_add]

@[simp] theorem length_pace : (pace throttleEvery total).length = total := by
  rw [pace, List.length_map, List.length_range]

theorem pace_succ : pace throttleEvery (total + 1) =
    pace throttleEvery total ++ [paceAt throttleEvery (UInt64.ofNat (total + 1))] := by
  rw [pace, List.range_succ, List.map_append, List.map_singleton, pace]

/-- A write that is admitted is accepted or throttled. -/
theorem count_ok_add_count_throttled :
    (pace throttleEvery total).count .ok + (pace throttleEvery total).count .throttled = total := by
  rw [pace_eq_paceAfter, count_ok_add_count_paceAfter]

/-- Without a pace nothing is throttled. -/
theorem count_throttled_zero : (pace 0 total).count .throttled = 0 := by
  rw [List.count_eq_zero]
  intro hmem
  obtain ⟨number, -, h⟩ := List.mem_map.1 hmem
  simp [paceAt] at h

variable {throttleEvery total}

/-- How many writes were throttled. -/
theorem count_throttled (positive : throttleEvery ≠ 0) (few : total < 2 ^ 64) :
    (pace throttleEvery total).count .throttled = total / throttleEvery.toNat := by
  rw [pace_eq_paceAfter, count_paceAfter positive (by rwa [Nat.zero_add]), multiples, Nat.zero_add,
    Nat.Ioc_filter_dvd_card_eq_div]

/-- What is refused among the first writes is refused among more of them. -/
theorem pace_sublist {first : Nat} (le : first ≤ total) :
    (pace throttleEvery first).Sublist (pace throttleEvery total) :=
  (List.range_sublist.2 le).map _

/-- After refusals at every multiple of a pace, and something accepted at the end, the refusals
can be told from what was accepted. -/
theorem refused_eq {every accepted refused : Nat} (two : 2 ≤ every)
    (refusals : refused = (accepted + refused) / every)
    (accepts : ¬ every ∣ accepted + refused) : refused = (accepted - 1) / (every - 1) := by
  obtain ⟨between, rfl⟩ := Nat.exists_eq_add_of_le' (Nat.le_of_succ_le two)
  have hdivides := Nat.div_add_mod (accepted + refused) (between + 1)
  have hrest := Nat.mod_lt (accepted + refused) (show 0 < between + 1 by omega)
  have hpositive : (accepted + refused) % (between + 1) ≠ 0 :=
    fun h => accepts (Nat.dvd_of_mod_eq_zero h)
  rw [← refusals, Nat.succ_mul] at hdivides
  rw [Nat.add_sub_cancel, eq_comm]
  refine Nat.div_eq_of_lt_le ?_ ?_
  · rw [Nat.mul_comm]
    omega
  · rw [Nat.succ_mul, Nat.mul_comm]
    omega

/-- Whether what was done last was accepted, if anything was done. -/
def EndsAccepted (passed : List WriteStatus) : Prop :=
  ∀ status, passed.getLast? = some status → status = .ok

/-- The last write of a number of them that end so. -/
theorem paceAt_of_endsAccepted (ends : EndsAccepted (pace throttleEvery (total + 1))) :
    paceAt throttleEvery (UInt64.ofNat (total + 1)) = .ok :=
  ends _ (by rw [pace_succ, List.getLast?_append, List.getLast?_singleton, Option.some_or])

/-- If all the writes that it takes to have so many accepted can be counted, then all the writes
there were have been counted. -/
theorem total_lt (two : 2 ≤ throttleEvery.toNat) (ends : EndsAccepted (pace throttleEvery total))
    (fits : (pace throttleEvery total).count .ok +
      ((pace throttleEvery total).count .ok - 1) / (throttleEvery.toNat - 1) < 2 ^ 64) :
    total < 2 ^ 64 := by
  by_contra hmany
  obtain ⟨before, rfl⟩ : ∃ before, total = before + 1 := ⟨total - 1, by omega⟩
  have hpositive := ne_zero_of_two_le two
  -- all that the word can count, and at least one more that was accepted
  have hsum := count_ok_add_count_throttled throttleEvery (2 ^ 64 - 1)
  rw [count_throttled hpositive (by omega)] at hsum
  have hbefore : 2 ^ 64 - 1 ≤ before := by omega
  have hfirst := (pace_sublist hbefore : (pace throttleEvery _).Sublist _).count_le .ok
  have hlast : (pace throttleEvery (before + 1)).count .ok =
      (pace throttleEvery before).count .ok + 1 := by
    rw [pace_succ, List.count_append, paceAt_of_endsAccepted ends, List.count_singleton_self]
  have hdivides := Nat.div_mul_le_self (2 ^ 64 - 1) throttleEvery.toNat
  have hrefused : (2 ^ 64 - 1) / throttleEvery.toNat ≤
      ((pace throttleEvery (before + 1)).count .ok - 1) / (throttleEvery.toNat - 1) := by
    rw [Nat.le_div_iff_mul_le (by omega), Nat.mul_sub, Nat.mul_one]
    omega
  omega

/-- How many writes were throttled, by how many were accepted. -/
theorem throttled_eq (two : 2 ≤ throttleEvery.toNat)
    (ends : EndsAccepted (pace throttleEvery total))
    (fits : (pace throttleEvery total).count .ok +
      ((pace throttleEvery total).count .ok - 1) / (throttleEvery.toNat - 1) < 2 ^ 64) :
    (pace throttleEvery total).count .throttled =
      ((pace throttleEvery total).count .ok - 1) / (throttleEvery.toNat - 1) := by
  have hpositive := ne_zero_of_two_le two
  have hfew := total_lt two ends fits
  have hsum := count_ok_add_count_throttled throttleEvery total
  cases total with
  | zero => simp [pace]
  | succ total =>
    refine refused_eq two ?_ ?_
    · rw [hsum]
      exact count_throttled hpositive hfew
    · rw [hsum, ← paceAt_eq_throttled_iff hpositive hfew, paceAt_of_endsAccepted ends]
      decide

end Pace
end Hub
end BrokerLoad
