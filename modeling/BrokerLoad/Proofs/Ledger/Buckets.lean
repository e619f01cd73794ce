import BrokerLoad.Ledger.Histogram
import Mathlib.Algebra.BigOperators.Group.List.Basic
import Mathlib.Data.List.Induction
import Mathlib.Data.UInt

/-!
# What a histogram holds

A histogram holds the number of its samples, their sum, the least and the greatest of them, and for
every bucket the number of samples that belong there (`Histogram.Holds`).  None of that depends on
the order of the samples, so two histograms of the same samples are the same
(`Histogram.Holds.unique`).

The samples are those that were recorded since the histogram was last emptied
(`Histogram.samplesOf`).
-/

namespace BrokerLoad
namespace Histogram

/-! ## Samples -/

/-- What can be done to a histogram. -/
inductive Entry where
  | sample (micros : UInt64)
  /-- The histogram is emptied. -/
  | reset

/-- A histogram after one more entry. -/
def enter (h : Histogram) : Entry → Histogram
  | .sample micros => h.record micros
  | .reset => {}

/-- The histogram that entries make. -/
def ofEntries (entries : List Entry) : Histogram := entries.foldl enter {}

/-- The samples since the last reset, oldest first. -/
def samplesOf (entries : List Entry) : List UInt64 :=
  entries.foldl (fun samples entry =>
    match entry with
    | .sample micros => samples ++ [micros]
    | .reset => []) []

/-! ## Holding samples -/

/-- A histogram holds the samples of a list, in whatever order. -/
structure Holds (h : Histogram) (samples : List UInt64) : Prop where
  count : h.count = UInt64.ofNat samples.length
  sum : h.sum = samples.sum
  le_greatest : ∀ sample ∈ samples, sample ≤ h.greatest
  /-- The greatest is a sample, if there are any. -/
  greatest_mem : h.greatest ∈ samples ∨ samples = [] ∧ h.greatest = 0
  least_le : ∀ sample ∈ samples, h.least ≤ sample
  /-- The least is a sample, too. -/
  least_mem : h.least ∈ samples ∨ samples = [] ∧ h.least = 0xFFFFFFFFFFFFFFFF
  buckets : ∀ bucket : Fin bucketCount,
    h.buckets[bucket] = UInt64.ofNat (samples.countP fun sample => bucketOf sample = bucket)

namespace Holds

theorem empty : Holds {} [] where
  count := rfl
  sum := rfl
  le_greatest := nofun
  greatest_mem := .inr ⟨rfl, rfl⟩
  least_le := nofun
  least_mem := .inr ⟨rfl, rfl⟩
  buckets bucket := by simp

variable {h : Histogram} {samples : List UInt64}

theorem record (holds : h.Holds samples) (micros : UInt64) :
    (h.record micros).Holds (samples ++ [micros]) where
  count := by
    rw [List.length_append, List.length_singleton, UInt64.ofNat_add, ← holds.count]
    rfl
  sum := by
    rw [List.sum_append, List.sum_singleton, ← holds.sum]
    rfl
  le_greatest sample hsample := by
    have hold := holds.le_greatest
    grind [Histogram.record]
  greatest_mem := by
    have hold := holds.greatest_mem
    grind [Histogram.record]
  least_le := by
    have hold := holds.least_le
    grind [Histogram.record]
  least_mem := by
    have hold := holds.least_mem
    grind [Histogram.record]
  buckets bucket := by
    have hold := holds.buckets
    rw [List.countP_append, List.countP_singleton, UInt64.ofNat_add, ← hold]
    by_cases hbucket : bucketOf micros = bucket
    · subst hbucket
      rw [if_pos (decide_eq_true rfl)]
      exact Vector.getElem_set_self _
    · rw [if_neg (by simpa using hbucket)]
      rw [show UInt64.ofNat 0 = 0 from rfl, UInt64.add_zero]
      exact Vector.getElem_set_ne (bucketOf micros).isLt bucket.isLt fun hval =>
        hbucket (Fin.ext hval)

/-- Entries make a histogram of their samples. -/
theorem ofEntries (entries : List Entry) : (ofEntries entries).Holds (samplesOf entries) := by
  induction entries using List.reverseRecOn with
  | nil => exact empty
  | append_singleton entries entry ih =>
    rw [Histogram.ofEntries, samplesOf, List.foldl_concat, List.foldl_concat]
    cases entry with
    | sample micros => exact ih.record micros
    | reset => exact empty

/-- A histogram is known by its samples, in whatever order they come. -/
theorem unique {other : Histogram} {samples' : List UInt64} (holds : h.Holds samples)
    (holds' : other.Holds samples') (perm : samples.Perm samples') : h = other := by
  have hmem : ∀ sample, sample ∈ samples ↔ sample ∈ samples' := fun _ => perm.mem_iff
  have hnil : samples = [] ↔ samples' = [] := by
    rw [← List.length_eq_zero_iff, perm.length_eq, List.length_eq_zero_iff]
  have hcount : h.count = other.count := by rw [holds.count, holds'.count, perm.length_eq]
  have hsum : h.sum = other.sum := by rw [holds.sum, holds'.sum, perm.sum_eq]
  have hbuckets : h.buckets = other.buckets := by
    refine Vector.ext fun i hi => ?_
    exact (holds.buckets ⟨i, hi⟩).trans ((perm.countP_eq _) ▸ (holds'.buckets ⟨i, hi⟩).symm)
  have hgreatest : h.greatest = other.greatest := by
    have hle := holds.le_greatest
    have hle' := holds'.le_greatest
    have hgreat := holds.greatest_mem
    have hgreat' := holds'.greatest_mem
    grind
  have hleast : h.least = other.least := by
    have hle := holds.least_le
    have hle' := holds'.least_le
    have hsmall := holds.least_mem
    have hsmall' := holds'.least_mem
    grind
  cases h
  cases other
  simp_all

end Holds
end Histogram
end BrokerLoad
