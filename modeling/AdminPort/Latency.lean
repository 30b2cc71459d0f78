/-!
# Latency histogram

Durations are counted in buckets of fixed width. A duration falls into the
bucket with the least bound that is not below it, in whole microseconds; one
above every bound is counted apart. A percentile is the bound of the bucket in
which the observation of that rank lies.

Results:
1. `map_fst_count`: counting never changes a bound.
-/

namespace AdminPort

/-- A span of time. -/
structure Duration where
  seconds : UInt64
  nanoseconds : Nat
deriving DecidableEq, Repr

/-- The whole microseconds of a duration, or the largest word if there are more. -/
def Duration.microseconds (d : Duration) : UInt64 :=
  UInt64.ofNat (min (d.seconds.toNat * 1000000 + d.nanoseconds / 1000) (UInt64.size - 1))

/-- The whole milliseconds of a duration; a number that is no word wraps. -/
def Duration.milliseconds (d : Duration) : UInt64 :=
  UInt64.ofNat (d.seconds.toNat * 1000 + d.nanoseconds / 1000000)

namespace Latency

/-- The upper bounds of the buckets in microseconds, increasing. -/
def bounds : List UInt64 :=
  [100, 500, 1000, 5000, 10000, 50000, 100000, 500000, 1000000, 5000000, 10000000, 60000000]

/-- The percentile of an observation above every bound. -/
def lastBound : UInt64 := 60000000

/-- A bucket: its bound and the number of observations in it. -/
abbrev Bucket := UInt64 × UInt64

/-- One more observation, in the first bucket that it fits or else in the overflow. -/
def count (micros : UInt64) : List Bucket → UInt64 → List Bucket × UInt64
  | [], overflow => ([], overflow + 1)
  | (bound, n) :: rest, overflow =>
    if micros ≤ bound then ((bound, n + 1) :: rest, overflow)
    else
      let (rest, overflow) := count micros rest overflow
      ((bound, n) :: rest, overflow)

theorem map_fst_count (micros : UInt64) (buckets : List Bucket) (overflow : UInt64) :
    (count micros buckets overflow).1.map (·.1) = buckets.map (·.1) := by
  induction buckets with
  | nil => rfl
  | cons b rest ih =>
    rw [count]
    split
    · rfl
    · simpa using ih

end Latency

open Latency in
/-- Observed durations by bucket. -/
structure Histogram where
  buckets : List Bucket
  overflow : UInt64
  bounds_eq : buckets.map (·.1) = bounds
deriving DecidableEq, Repr

namespace Histogram

open Latency

/-- No observation yet. -/
def empty : Histogram :=
  ⟨bounds.map (·, 0), 0, by decide⟩

/-- One more observation. -/
def observe (h : Histogram) (d : Duration) : Histogram :=
  let counted := count d.microseconds h.buckets h.overflow
  ⟨counted.1, counted.2, (map_fst_count _ _ _).trans h.bounds_eq⟩

/-- The number of observations. -/
def total (h : Histogram) : UInt64 :=
  h.buckets.foldl (fun n b => n + b.2) 0 + h.overflow

/-- The rank that a percentile asks for among a number of observations: the
share rounded up, and at least 1. -/
def rank (total percent : UInt64) : UInt64 :=
  let share := total * min percent 100
  max (share / 100 + if share % 100 = 0 then 0 else 1) 1

/-- The bound of the first bucket that brings the count so far up to a rank. -/
def boundAtRank (rank : UInt64) : UInt64 → List Bucket → UInt64
  | _, [] => lastBound
  | seen, (bound, n) :: rest =>
    if rank ≤ seen + n then bound else boundAtRank rank (seen + n) rest

/-- A percentile in microseconds; 0 when nothing was observed. -/
def percentile (h : Histogram) (percent : UInt64) : UInt64 :=
  if h.total = 0 then 0 else boundAtRank (rank h.total percent) 0 h.buckets

/-- A percentile in milliseconds, rounded up. -/
def percentileMillis (h : Histogram) (percent : UInt64) : UInt64 :=
  let micros := h.percentile percent
  micros / 1000 + if micros % 1000 = 0 then 0 else 1

instance : Inhabited Histogram := ⟨empty⟩

end Histogram

end AdminPort
