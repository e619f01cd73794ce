import BrokerLoad.Decimal.Binary64

/-!
# Latencies in a histogram

A latency is a whole number of microseconds.  The histogram keeps the count, the
sum and the extremes of its samples and one counter for each power of two: bucket
`i` holds the samples from `2 ^ i` up to the next power, and bucket 0 holds 0 as
well as 1.  All counters are 64-bit words and wrap around.

## Percentiles

A percentile is read off the buckets alone.  Its *rank* is a share of the number of
samples, rounded up; the buckets are added up from the smallest, and the first at
which the sum reaches the rank gives its lower bound as the answer.  So the answer
is never above the sample of that rank, and more than half of it.
-/

namespace BrokerLoad

/-- How many buckets a histogram has: one for each bit of a word. -/
def bucketCount : Nat := 64

/-- A histogram of latencies in microseconds. -/
structure Histogram where
  /-- The number of samples. -/
  count : UInt64 := 0
  sum : UInt64 := 0
  /-- The smallest sample, and the largest word before there is one. -/
  least : UInt64 := 0xFFFFFFFFFFFFFFFF
  /-- The largest sample. -/
  greatest : UInt64 := 0
  buckets : Vector UInt64 bucketCount := .replicate bucketCount 0
  deriving DecidableEq

namespace Histogram

/-- What a histogram says about its samples; all zero if there are none. -/
structure Summary where
  /-- The number of samples. -/
  count : UInt64 := 0
  /-- The smallest sample. -/
  least : UInt64 := 0
  /-- The largest sample. -/
  greatest : UInt64 := 0
  mean : Binary64 := .zero
  p50 : UInt64 := 0
  p90 : UInt64 := 0
  p99 : UInt64 := 0
  deriving DecidableEq

/-- The leading bit of a word is one of the first `bucketCount`. -/
theorem log2_toNat_lt (word : UInt64) : word.toNat.log2 < bucketCount := by
  by_cases h : word.toNat = 0
  · simp [h, bucketCount]
  · exact (Nat.log2_lt h).2 word.toNat_lt

/-- The position of a sample's leading bit, and 0 for the sample 0. -/
def bucketOf (micros : UInt64) : Fin bucketCount :=
  ⟨micros.toNat.log2, log2_toNat_lt micros⟩

/-- The smallest sample that belongs to a bucket. -/
def lowerBound (bucket : Nat) : UInt64 :=
  if bucket = 0 then 0 else (twoTo bucket).toUInt64

/-- Adds a sample. -/
def record (h : Histogram) (micros : UInt64) : Histogram where
  count := h.count + 1
  sum := h.sum + micros
  least := if micros < h.least then micros else h.least
  greatest := if h.greatest < micros then micros else h.greatest
  buckets := h.buckets.set (bucketOf micros) (h.buckets[bucketOf micros] + 1)

/-- Adds the same sample again and again. -/
def recordTimes (h : Histogram) (micros : UInt64) : Nat → Histogram
  | 0 => h
  | times + 1 => (h.record micros).recordTimes micros times

/-- Adds an elapsed time in nanoseconds, cut down to whole microseconds; a clock that
ran backwards counts as no time at all. -/
def recordElapsed (h : Histogram) (nanos : Int) : Histogram :=
  h.record (nanos.toNat / 1000).toUInt64

/-- The share `percent / 100` of a number of samples, rounded up. -/
def rank (percent total : UInt64) : UInt64 :=
  (total * percent + 99) / 100

/-- The rank of the median: half the samples, rounded up. -/
def medianRank (total : UInt64) : UInt64 :=
  (total + 1) / 2

/-- The position of the first bucket at which the sum of the buckets so far, begun at
`below`, reaches a rank. -/
def reaching (rank below : UInt64) : List UInt64 → Option Nat
  | [] => none
  | bucket :: rest =>
    if rank ≤ below + bucket then some 0
    else (reaching rank (below + bucket) rest).map (· + 1)

/-- The lower bound of the bucket that holds the sample of a rank. -/
def percentile (h : Histogram) (rank : UInt64) : UInt64 :=
  ((reaching rank 0 h.buckets.toList).map lowerBound).getD 0

/-- Sums up the samples. -/
def summarize (h : Histogram) : Summary :=
  if h.count = 0 then
    {}
  else
    let total := h.buckets.toList.foldl (· + ·) 0
    { count := h.count
      least := h.least
      greatest := h.greatest
      mean := .div (.ofNat h.sum.toNat) (.ofNat h.count.toNat)
      p50 := h.percentile (medianRank total)
      p90 := h.percentile (rank 90 total)
      p99 := h.percentile (rank 99 total) }

end Histogram
end BrokerLoad
