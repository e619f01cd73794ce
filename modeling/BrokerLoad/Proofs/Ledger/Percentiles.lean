import BrokerLoad.Proofs.Ledger.Buckets
import Mathlib.Algebra.Order.Floor.Div
import Mathlib.Data.Nat.Log

/-!
# Percentiles are exact up to the bucket

The sample of a rank is the one at that place when the samples are ranked, the smallest first
(`Histogram.ranked`).  Its bucket is the first at which the sum of the buckets reaches the rank:
that many samples or more are in the buckets so far, and those come first when they are ranked
(`Histogram.bucketOf_le_iff`).  So a percentile is the lower bound of the bucket of the sample of
its rank (`Histogram.Holds.percentile_eq`), which is not above the sample and more than half of it.

All that is computed in words.  It is right as long as 99 times the number of samples, and 99, is
one (`Histogram.percentiles_exact`).
-/

namespace BrokerLoad
namespace Histogram

/-! ## Powers of two -/

theorem val_bucketOf (sample : UInt64) : (bucketOf sample).val = Nat.log 2 sample.toNat :=
  Nat.log2_eq_log_two

theorem bucketOf_le {one other : UInt64} (le : one ≤ other) : bucketOf one ≤ bucketOf other := by
  rw [Fin.le_def, val_bucketOf, val_bucketOf]
  exact Nat.log_mono_right (UInt64.le_iff_toNat_le.1 le)

theorem toNat_lowerBound (bucket : Fin bucketCount) :
    (lowerBound bucket).toNat = if bucket.val = 0 then 0 else 2 ^ bucket.val := by
  rw [lowerBound]
  split
  · rfl
  · exact Nat.mod_eq_of_lt (Nat.pow_lt_pow_right (by decide) bucket.isLt)

theorem lowerBound_le {one other : Fin bucketCount} (le : one ≤ other) :
    lowerBound one ≤ lowerBound other := by
  rw [UInt64.le_iff_toNat_le, toNat_lowerBound, toNat_lowerBound]
  split
  next => exact Nat.zero_le _
  next hone =>
    have hother : other.val ≠ 0 := fun hzero => hone (Nat.eq_zero_of_le_zero (hzero ▸ le))
    rw [if_neg hother]
    exact Nat.pow_le_pow_right (by decide) le

/-- What is reported for a sample: 0 for 0 and 1, and otherwise the largest power of two that is not
above it. -/
def IsReported (sample reported : Nat) : Prop :=
  if sample ≤ 1 then reported = 0
  else IsGreatest {power | (∃ exponent, power = 2 ^ exponent) ∧ power ≤ sample} reported

/-- The lower bound of its bucket is reported for a sample. -/
theorem isReported_lowerBound (sample : UInt64) :
    IsReported sample.toNat (lowerBound (bucketOf sample)).toNat := by
  rw [IsReported, toNat_lowerBound, val_bucketOf]
  split
  next hsmall => rw [if_pos (Nat.log_of_lt (Nat.lt_succ_of_le hsmall))]
  next hlarge =>
    have hsample : sample.toNat ≠ 0 := by omega
    have hlog : 0 < Nat.log 2 sample.toNat := Nat.log_pos (by decide) (by omega)
    rw [if_neg hlog.ne']
    refine ⟨⟨⟨_, rfl⟩, Nat.pow_log_le_self 2 hsample⟩, ?_⟩
    rintro _ ⟨⟨exponent, rfl⟩, hle⟩
    exact Nat.pow_le_pow_right (by decide) (Nat.le_log_of_pow_le (by decide) hle)

namespace IsReported

variable {sample reported : Nat} (isReported : IsReported sample reported)
include isReported

theorem le : reported ≤ sample := by
  rw [IsReported] at isReported
  split at isReported
  · omega
  · exact isReported.1.2

/-- A sample is less than the next power of two. -/
theorem lt : sample < 2 * reported ∨ reported = 0 ∧ sample < 2 := by
  rw [IsReported] at isReported
  split at isReported
  next hsmall => exact .inr ⟨isReported, Nat.lt_succ_of_le hsmall⟩
  next =>
    obtain ⟨⟨⟨exponent, hpower⟩, -⟩, hgreatest⟩ := isReported
    by_contra hnot
    -- The next power of two would not be above the sample either.
    have hnext : 2 * reported ≤ reported :=
      hgreatest ⟨⟨exponent + 1, by rw [hpower, Nat.pow_succ, Nat.mul_comm]⟩, by omega⟩
    have hpositive : 0 < reported := hpower ▸ Nat.two_pow_pos exponent
    omega

end IsReported

/-! ## Ranks -/

/-- The samples of a list, from the smallest to the largest. -/
def ranked (samples : List UInt64) : List UInt64 := samples.mergeSort

theorem ranked_perm (samples : List UInt64) : (ranked samples).Perm samples :=
  List.mergeSort_perm _ _

theorem length_ranked (samples : List UInt64) : (ranked samples).length = samples.length :=
  (ranked_perm samples).length_eq

theorem pairwise_ranked (samples : List UInt64) : (ranked samples).Pairwise (· ≤ ·) := by
  have hsorted : (ranked samples).Pairwise fun one other => decide (one ≤ other) = true := by
    refine List.pairwise_mergeSort (fun _ _ _ hone hother => ?_) (fun one other => ?_) samples
    · exact decide_eq_true (UInt64.le_trans (of_decide_eq_true hone) (of_decide_eq_true hother))
    · simpa using UInt64.le_total one other
  exact hsorted.imp fun h => of_decide_eq_true h

/-- Among samples in order those below a limit come first, so whether one of them is below can be
told from its position. -/
theorem iff_lt_countP {samples : List UInt64} {isBelow : UInt64 → Bool}
    (initial : samples.Pairwise fun one other => isBelow other = true → isBelow one = true)
    {position : Nat} {sample : UInt64} (found : samples[position]? = some sample) :
    isBelow sample = true ↔ position < samples.countP isBelow := by
  induction samples generalizing position with
  | nil => cases found
  | cons first rest ih =>
    obtain ⟨hfirst, hrest⟩ := List.pairwise_cons.1 initial
    by_cases hbelow : isBelow first = true
    · rw [List.countP_cons_of_pos hbelow]
      cases position with
      | zero =>
        cases found
        exact iff_of_true hbelow (Nat.succ_pos _)
      | succ position => rw [ih hrest found, Nat.succ_lt_succ_iff]
    · have hnone : ∀ other ∈ first :: rest, ¬ isBelow other = true := by
        rintro other (_ | ⟨_, hother⟩)
        · exact hbelow
        · exact fun h => hbelow (hfirst other hother h)
      rw [List.countP_eq_zero.2 hnone]
      exact iff_of_false (hnone sample (List.mem_of_getElem? found)) (Nat.not_lt_zero _)

/-- As many samples are in the buckets up to a bucket as come first when they are ranked. -/
theorem bucketOf_le_iff {samples : List UInt64} {position : Nat} {sample : UInt64}
    (found : (ranked samples)[position]? = some sample) (bucket : Nat) :
    (bucketOf sample).val ≤ bucket ↔
      position < samples.countP fun other => (bucketOf other).val < bucket + 1 := by
  have hinitial : (ranked samples).Pairwise fun one other =>
      decide ((bucketOf other).val < bucket + 1) = true →
        decide ((bucketOf one).val < bucket + 1) = true := by
    refine (pairwise_ranked samples).imp fun hle hother => ?_
    rw [decide_eq_true_iff] at hother ⊢
    exact Nat.lt_of_le_of_lt (bucketOf_le hle) hother
  have hiff := iff_lt_countP hinitial found
  rw [decide_eq_true_iff, (ranked_perm samples).countP_eq] at hiff
  rw [← hiff, Nat.lt_succ_iff]

/-! ## Adding up buckets -/

/-- One more bucket. -/
theorem countP_lt_succ (samples : List UInt64) (bucket : Fin bucketCount) :
    (samples.countP fun sample => (bucketOf sample).val < bucket.val + 1) =
      (samples.countP fun sample => (bucketOf sample).val < bucket.val) +
        samples.countP fun sample => bucketOf sample = bucket := by
  induction samples with
  | nil => rfl
  | cons first rest ih =>
    simp only [List.countP_cons, ih, decide_eq_true_iff, Fin.ext_iff]
    split <;> split <;> split <;> omega

namespace Holds

variable {h : Histogram} {samples : List UInt64} (holds : h.Holds samples)
include holds

/-- The first buckets hold the samples that belong there. -/
theorem sum_take_buckets {count : Nat} (hcount : count ≤ bucketCount) :
    (h.buckets.toList.take count).sum =
      UInt64.ofNat (samples.countP fun sample => (bucketOf sample).val < count) := by
  induction count with
  | zero => simp
  | succ count ih =>
    have hlength : count < h.buckets.toList.length := by
      rw [Vector.length_toList]
      exact hcount
    have hbucket : h.buckets[count] = _ := holds.buckets ⟨count, hcount⟩
    rw [List.sum_take_succ _ _ hlength, ih (Nat.le_of_succ_le hcount), Vector.getElem_toList,
      hbucket, ← UInt64.ofNat_add, countP_lt_succ samples ⟨count, hcount⟩]

/-- All samples are in the buckets. -/
theorem sum_buckets : h.buckets.toList.foldl (· + ·) 0 = UInt64.ofNat samples.length := by
  have hall := holds.sum_take_buckets (Nat.le_refl bucketCount)
  rw [List.take_of_length_le (Nat.le_of_eq Vector.length_toList), List.sum_eq_foldl] at hall
  rw [hall, List.countP_eq_length.2 fun sample _ => decide_eq_true (bucketOf sample).isLt]

end Holds

/-- The first bucket at which a rank is reached. -/
theorem reaching_eq_some {rank below : UInt64} {buckets : List UInt64} {position : Nat}
    (inside : position < buckets.length)
    (short : ∀ before < position, ¬ rank ≤ below + (buckets.take (before + 1)).sum)
    (reached : rank ≤ below + (buckets.take (position + 1)).sum) :
    reaching rank below buckets = some position := by
  induction buckets generalizing position below with
  | nil => cases inside
  | cons bucket rest ih =>
    rw [reaching]
    cases position with
    | zero =>
      rw [if_pos (by simpa using reached)]
    | succ position =>
      have hfirst := short 0 (Nat.succ_pos _)
      rw [if_neg (by simpa using hfirst)]
      have hrest : reaching rank (below + bucket) rest = some position := by
        refine ih (Nat.lt_of_succ_lt_succ inside) (fun before hbefore => ?_) ?_
        · have hshort := short (before + 1) (Nat.succ_lt_succ hbefore)
          rwa [List.take_succ_cons, List.sum_cons, ← UInt64.add_assoc] at hshort
        · rwa [List.take_succ_cons, List.sum_cons, ← UInt64.add_assoc] at reached
      rw [hrest]
      rfl

/-- A percentile is the lower bound of the bucket of the sample of its rank. -/
theorem Holds.percentile_eq {h : Histogram} {samples : List UInt64} (holds : h.Holds samples)
    (few : samples.length < 2 ^ 64) {rank : UInt64} (positive : 0 < rank.toNat) {sample : UInt64}
    (found : (ranked samples)[rank.toNat - 1]? = some sample) :
    h.percentile rank = lowerBound (bucketOf sample) := by
  have hreaches : ∀ bucket < bucketCount,
      rank ≤ 0 + (h.buckets.toList.take (bucket + 1)).sum ↔ (bucketOf sample).val ≤ bucket := by
    intro bucket hbucket
    have hcount := List.countP_le_length
      (p := fun sample => decide ((bucketOf sample).val < bucket + 1)) (l := samples)
    rw [UInt64.zero_add, holds.sum_take_buckets hbucket, UInt64.le_iff_toNat_le,
      UInt64.toNat_ofNat_of_lt' (Nat.lt_of_le_of_lt hcount few), bucketOf_le_iff found]
    omega
  have hreaching : reaching rank 0 h.buckets.toList = some (bucketOf sample).val := by
    refine reaching_eq_some ?_ (fun before hbefore => ?_) ?_
    · rw [Vector.length_toList]
      exact (bucketOf sample).isLt
    · rw [hreaches before (Nat.lt_trans hbefore (bucketOf sample).isLt)]
      exact Nat.not_le.2 hbefore
    · exact (hreaches _ (bucketOf sample).isLt).2 (Nat.le_refl _)
  rw [percentile, hreaching]
  rfl

/-! ## Percentiles -/

theorem toNat_medianRank {number : Nat} (few : number + 1 < 2 ^ 64) :
    (medianRank (UInt64.ofNat number)).toNat = number ⌈/⌉ 2 := by
  rw [medianRank, UInt64.toNat_div, UInt64.toNat_add,
    UInt64.toNat_ofNat_of_lt' (Nat.lt_of_succ_lt few), Nat.ceilDiv_eq_add_pred_div]
  exact congrArg (· / 2) (Nat.mod_eq_of_lt few)

theorem toNat_rank {percent : UInt64} {number : Nat} (small : number < 2 ^ 64)
    (few : percent.toNat * number + 99 < 2 ^ 64) :
    (rank percent (UInt64.ofNat number)).toNat = (percent.toNat * number) ⌈/⌉ 100 := by
  rw [rank, UInt64.toNat_div, UInt64.toNat_add, UInt64.toNat_mul, UInt64.toNat_ofNat_of_lt' small,
    Nat.mul_comm, Nat.mod_eq_of_lt (Nat.lt_of_le_of_lt (Nat.le_add_right _ 99) few),
    Nat.ceilDiv_eq_add_pred_div]
  exact congrArg (· / 100) (Nat.mod_eq_of_lt few)

/-- What is reported as a percentile: the bucket of the sample of the rank, told by its lower
bound, which is not above the sample and more than half of it. -/
def IsPercentile (samples : List UInt64) (rank : Nat) (reported : UInt64) : Prop :=
  ∃ sample, (ranked samples)[rank - 1]? = some sample ∧
    IsReported sample.toNat reported.toNat ∧ reported ≤ sample ∧
      (sample.toNat < 2 * reported.toNat ∨ reported = 0 ∧ sample < 2)

section Ranks

variable {h : Histogram} {samples : List UInt64} (holds : h.Holds samples)
  (few : samples.length < 2 ^ 64)

/-- There is a sample of every rank. -/
theorem exists_ranked {rank : Nat} (positive : 0 < rank) (inside : rank ≤ samples.length) :
    ∃ sample ∈ samples, (ranked samples)[rank - 1]? = some sample := by
  have hposition : rank - 1 < (ranked samples).length := by
    rw [length_ranked]
    omega
  exact ⟨_, (ranked_perm samples).mem_iff.1 (List.getElem_mem hposition),
    List.getElem?_eq_getElem hposition⟩

include holds few

theorem Holds.isPercentile {rank : UInt64} (positive : 0 < rank.toNat)
    (inside : rank.toNat ≤ samples.length) :
    IsPercentile samples rank.toNat (h.percentile rank) := by
  obtain ⟨sample, -, hfound⟩ := exists_ranked positive inside
  have hreported := isReported_lowerBound sample
  rw [← holds.percentile_eq few positive hfound] at hreported
  refine ⟨sample, hfound, hreported, UInt64.le_iff_toNat_le.2 hreported.le, ?_⟩
  exact hreported.lt.imp_right fun hzero => ⟨UInt64.toNat_inj.1 hzero.1, hzero.2⟩

/-- A higher rank has no lower percentile. -/
theorem Holds.percentile_le {rank higher : UInt64} (positive : 0 < rank.toNat)
    (le : rank.toNat ≤ higher.toNat) (inside : higher.toNat ≤ samples.length) :
    h.percentile rank ≤ h.percentile higher := by
  obtain ⟨sample, -, hfound⟩ := exists_ranked positive (le.trans inside)
  obtain ⟨sample', -, hfound'⟩ := exists_ranked (Nat.lt_of_lt_of_le positive le) inside
  rw [holds.percentile_eq few positive hfound,
    holds.percentile_eq few (Nat.lt_of_lt_of_le positive le) hfound']
  refine lowerBound_le (bucketOf_le ?_)
  obtain ⟨hposition, rfl⟩ := List.getElem?_eq_some_iff.1 hfound
  obtain ⟨hposition', rfl⟩ := List.getElem?_eq_some_iff.1 hfound'
  rcases Nat.eq_or_lt_of_le (Nat.sub_le_sub_right le 1) with hsame | hlt
  · exact UInt64.le_of_eq (getElem_congr_idx hsame)
  · exact List.pairwise_iff_getElem.1 (pairwise_ranked samples) _ _ hposition hposition' hlt

theorem Holds.percentile_le_greatest {rank : UInt64} (positive : 0 < rank.toNat)
    (inside : rank.toNat ≤ samples.length) : h.percentile rank ≤ h.greatest := by
  obtain ⟨sample, hmem, hfound⟩ := exists_ranked positive inside
  rw [holds.percentile_eq few positive hfound]
  exact UInt64.le_trans (UInt64.le_iff_toNat_le.2 (isReported_lowerBound sample).le)
    (holds.le_greatest sample hmem)

end Ranks

/-- What a summary says of samples. -/
structure Summarizes (samples : List UInt64) (summary : Summary) : Prop where
  count : summary.count.toNat = samples.length
  least : summary.least ∈ samples ∧ ∀ sample ∈ samples, summary.least ≤ sample
  greatest : summary.greatest ∈ samples ∧ ∀ sample ∈ samples, sample ≤ summary.greatest
  /-- The ranks are shares of the number of samples, rounded up. -/
  p50 : IsPercentile samples (samples.length ⌈/⌉ 2) summary.p50
  p90 : IsPercentile samples ((90 * samples.length) ⌈/⌉ 100) summary.p90
  p99 : IsPercentile samples ((99 * samples.length) ⌈/⌉ 100) summary.p99
  p50_le : summary.p50 ≤ summary.p90
  p90_le : summary.p90 ≤ summary.p99
  p99_le : summary.p99 ≤ summary.greatest

theorem Holds.summarizes {h : Histogram} {samples : List UInt64} (holds : h.Holds samples)
    (nonempty : samples ≠ []) (few : 99 * samples.length + 99 < 2 ^ 64) :
    Summarizes samples h.summarize := by
  have hpositive : 0 < samples.length := List.length_pos_iff.2 nonempty
  have hsmall : samples.length < 2 ^ 64 := by omega
  have hcount : h.count.toNat = samples.length := by
    rw [holds.count, UInt64.toNat_ofNat_of_lt' hsmall]
  have hnonzero : h.count ≠ 0 := by
    intro hzero
    rw [hzero] at hcount
    exact hpositive.ne hcount
  have h50 : (medianRank (UInt64.ofNat samples.length)).toNat = samples.length ⌈/⌉ 2 :=
    toNat_medianRank (by omega)
  have h90 : (rank 90 (UInt64.ofNat samples.length)).toNat = (90 * samples.length) ⌈/⌉ 100 :=
    toNat_rank hsmall (Nat.lt_of_le_of_lt (by simp; omega) few)
  have h99 : (rank 99 (UInt64.ofNat samples.length)).toNat = (99 * samples.length) ⌈/⌉ 100 :=
    toNat_rank hsmall few
  -- The ranks are in this order, and there are samples of these ranks.
  have hranks : 0 < samples.length ⌈/⌉ 2 ∧
      samples.length ⌈/⌉ 2 ≤ (90 * samples.length) ⌈/⌉ 100 ∧
      (90 * samples.length) ⌈/⌉ 100 ≤ (99 * samples.length) ⌈/⌉ 100 ∧
      (99 * samples.length) ⌈/⌉ 100 ≤ samples.length := by
    simp only [Nat.ceilDiv_eq_add_pred_div]
    omega
  rw [← h50, ← h90, ← h99] at hranks
  obtain ⟨hfirst, hmiddle, hlast, hinside⟩ := hranks
  have hmiddle' := Nat.lt_of_lt_of_le hfirst hmiddle
  rw [summarize, if_neg hnonzero, holds.sum_buckets]
  exact
    { count := hcount
      least := ⟨holds.least_mem.resolve_right fun hnone => nonempty hnone.1, holds.least_le⟩
      greatest :=
        ⟨holds.greatest_mem.resolve_right fun hnone => nonempty hnone.1, holds.le_greatest⟩
      p50 := h50 ▸ holds.isPercentile hsmall hfirst (hmiddle.trans (hlast.trans hinside))
      p90 := h90 ▸ holds.isPercentile hsmall hmiddle' (hlast.trans hinside)
      p99 := h99 ▸ holds.isPercentile hsmall (hmiddle'.trans_le hlast) hinside
      p50_le := holds.percentile_le hsmall hfirst hmiddle (hlast.trans hinside)
      p90_le := holds.percentile_le hsmall hmiddle' hlast hinside
      p99_le := holds.percentile_le_greatest hsmall (hmiddle'.trans_le hlast) hinside }

/-- The summary of the samples since the last reset, if there are any and not too many.  It is the
same in whatever order they were recorded. -/
theorem percentiles_exact {entries : List Entry} (nonempty : samplesOf entries ≠ [])
    (few : 99 * (samplesOf entries).length + 99 < 2 ^ 64) :
    Summarizes (samplesOf entries) (ofEntries entries).summarize ∧
      ∀ others, (samplesOf others).Perm (samplesOf entries) →
        (ofEntries others).summarize = (ofEntries entries).summarize := by
  have hholds := Holds.ofEntries entries
  refine ⟨hholds.summarizes nonempty few, fun others perm => ?_⟩
  exact congrArg summarize ((Holds.ofEntries others).unique hholds perm)

/-- Three samples after a reset: the second smallest is reported for the median, and the largest for
the others. -/
theorem percentiles_exact_of_three :
    let entries : List Entry := [.sample 7, .reset, .sample 1000, .sample 1, .sample 5]
    samplesOf entries = [1000, 1, 5] ∧
      ((ofEntries entries).summarize.p50 = 4 ∧ (ofEntries entries).summarize.p90 = 512) ∧
      Summarizes [1000, 1, 5] (ofEntries entries).summarize ∧
      ∀ others, (samplesOf others).Perm [1000, 1, 5] →
        (ofEntries others).summarize = (ofEntries entries).summarize := by
  intro entries
  have hsome : samplesOf entries ≠ [] := List.cons_ne_nil _ _
  exact ⟨rfl, by decide +kernel, percentiles_exact hsome (by decide)⟩

end Histogram
end BrokerLoad
