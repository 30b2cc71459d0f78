import AdminPort.Proofs.Percentile

/-!
# Percentiles as order statistics

A percentile of the durations that a histogram was shown is the one of a certain rank
among them, rounded up to a bound. This is said here without the histogram and without
words: of natural numbers, put in order. A histogram computes it with words, and while a
hundred times the number of durations is one of them, none of its steps overflows.

Results:
1. `percentile?_eq_some`: a percentile of a histogram that holds few durations is computed
   without an overflow.
2. `weight_observeAll`: a histogram holds as many durations as it was shown.
3. `roundsUp_boundOf?`, `roundsUp_mono`: what rounding up to a bound is.
4. `rankOf_le_iff`: what the rank is that a percentage asks for.
5. `bounded_percentile`, `percentile_mono`: a percentile is that of the durations, rounded up,
   and a larger percentage never has a smaller one.
6. `percentile_orderStatistic`: all of it; the order of the durations does not matter.
-/

namespace AdminPort.Latency

/-! ## Definitions -/

/-- The sum of two words, unless it overflows. -/
def plus? (a b : UInt64) : Option UInt64 :=
  if a.toNat + b.toNat < UInt64.size then some (a + b) else none

/-- The product of two words, unless it overflows. -/
def times? (a b : UInt64) : Option UInt64 :=
  if a.toNat * b.toNat < UInt64.size then some (a * b) else none

/-- The number of observations in buckets. -/
def held (buckets : List Bucket) : Nat := (buckets.map fun bucket => bucket.2.toNat).sum

/-- The whole microseconds of a duration, at most the largest word. -/
def wholeMicros (d : Duration) : Nat :=
  min ((d.seconds.toNat * 10 ^ 9 + d.nanoseconds) / 10 ^ 3) (2 ^ 64 - 1)

/-- The whole microseconds of durations, the least first. -/
def wholeInOrder (ds : List Duration) : List Nat := (ds.map wholeMicros).mergeSort (· ≤ ·)

/-- `RoundsUp m r`: rounding up to a bound takes `m` to `r`: to the least bound that is
not below it, or to the last one if all are below. -/
def RoundsUp (m : Nat) (r : UInt64) : Prop :=
  (r ∈ bounds ∧ m ≤ r.toNat ∧ ∀ b ∈ bounds, m ≤ b.toNat → r ≤ b) ∨
    (∀ b ∈ bounds, b.toNat < m) ∧ r = lastBound

end AdminPort.Latency

namespace AdminPort.Histogram

open Latency

/-- The number of observations. -/
def weight (h : Histogram) : Nat := held h.buckets + h.overflow.toNat

/-- `total`, unless it overflows. -/
def total? (h : Histogram) : Option UInt64 := do
  let inBuckets ← h.buckets.foldlM (fun n bucket => plus? n bucket.2) 0
  plus? inBuckets h.overflow

/-- `rank`, unless it overflows. -/
def rank? (total percent : UInt64) : Option UInt64 := do
  let share ← times? total (min percent 100)
  let rounded ← plus? (share / 100) (if share % 100 = 0 then 0 else 1)
  return max rounded 1

/-- `boundAtRank`, unless it overflows. -/
def boundAtRank? (rank : UInt64) : UInt64 → List Bucket → Option UInt64
  | _, [] => some lastBound
  | seen, (bound, n) :: rest => do
    let seen ← plus? seen n
    if rank ≤ seen then some bound else boundAtRank? rank seen rest

/-- `percentile`, unless it overflows. -/
def percentile? (h : Histogram) (percent : UInt64) : Option UInt64 := do
  let total ← h.total?
  if total = 0 then return 0
  let rank ← rank? total percent
  boundAtRank? rank 0 h.buckets

/-! ## Overflows -/

theorem plus?_eq_some {a b : UInt64} (small : a.toNat + b.toNat < UInt64.size) :
    plus? a b = some (a + b) :=
  if_pos small

theorem toNat_add_of_lt {a b : UInt64} (small : a.toNat + b.toNat < UInt64.size) :
    (a + b).toNat = a.toNat + b.toNat := by
  rw [UInt64.toNat_add]
  exact Nat.mod_eq_of_lt small

theorem foldlM_plus?_eq_some (buckets : List Bucket) (n : UInt64)
    (small : n.toNat + held buckets < UInt64.size) :
    buckets.foldlM (fun n bucket => plus? n bucket.2) n =
        some (buckets.foldl (fun n bucket => n + bucket.2) n) ∧
      (buckets.foldl (fun n bucket => n + bucket.2) n).toNat = n.toNat + held buckets := by
  induction buckets generalizing n with
  | nil => exact ⟨rfl, rfl⟩
  | cons bucket rest ih =>
    simp only [held, List.map_cons, List.sum_cons] at small ⊢
    have fits : n.toNat + bucket.2.toNat < UInt64.size := by omega
    have sum := toNat_add_of_lt fits
    obtain ⟨folded, total⟩ := ih (n + bucket.2) (by rw [sum, held]; omega)
    rw [List.foldlM_cons, plus?_eq_some fits, List.foldl_cons, Option.bind_eq_bind,
      Option.bind_some, total, sum]
    exact ⟨folded, Nat.add_assoc _ _ _⟩

theorem total?_eq_some {h : Histogram} (few : h.weight < UInt64.size) :
    h.total? = some h.total ∧ h.total.toNat = h.weight := by
  rw [weight] at few
  obtain ⟨folded, total⟩ := foldlM_plus?_eq_some h.buckets 0 (by simp; omega)
  rw [total?, folded, Option.bind_eq_bind, Option.bind_some, Histogram.total, weight]
  generalize h.buckets.foldl (fun n bucket => n + bucket.2) 0 = inBuckets at total ⊢
  simp only [UInt64.toNat_zero, Nat.zero_add] at total
  have fits : inBuckets.toNat + h.overflow.toNat < UInt64.size := by rwa [total]
  rw [plus?_eq_some fits, toNat_add_of_lt fits, total]
  exact ⟨rfl, rfl⟩

theorem rank?_eq_some {total : UInt64} (few : 100 * total.toNat < UInt64.size) (percent : UInt64) :
    rank? total percent = some (rank total percent) := by
  have capped : (min percent 100).toNat ≤ 100 := by
    rw [UInt64.toNat_min]
    exact Nat.min_le_right _ _
  have fits : total.toNat * (min percent 100).toNat < UInt64.size :=
    Nat.lt_of_le_of_lt (Nat.mul_le_mul_left _ capped) (by omega)
  have up (share : UInt64) :
      (share / 100).toNat + (if share % 100 = 0 then 0 else 1 : UInt64).toNat < UInt64.size := by
    have word : share.toNat < UInt64.size := share.toNat_lt
    have atMost : (if share % 100 = 0 then 0 else 1 : UInt64).toNat ≤ 1 := by split <;> simp
    have hundred : (100 : UInt64).toNat = 100 := rfl
    have several : 1 < UInt64.size := by decide
    rw [UInt64.toNat_div, hundred]
    omega
  rw [rank?, times?, if_pos fits, Option.bind_eq_bind, Option.bind_some, plus?_eq_some (up _)]
  rfl

theorem boundAtRank?_eq_some (rank : UInt64) (buckets : List Bucket) (seen : UInt64)
    (small : seen.toNat + held buckets < UInt64.size) :
    boundAtRank? rank seen buckets = some (boundAtRank rank seen buckets) := by
  induction buckets generalizing seen with
  | nil => rfl
  | cons bucket rest ih =>
    simp only [held, List.map_cons, List.sum_cons] at small
    have fits : seen.toNat + bucket.2.toNat < UInt64.size := by omega
    rw [boundAtRank?, plus?_eq_some fits, Option.bind_eq_bind, Option.bind_some, boundAtRank]
    split
    · rfl
    · refine ih _ ?_
      rw [toNat_add_of_lt fits, held]
      omega

/-- A percentile of few observations is computed without an overflow. -/
theorem percentile?_eq_some {h : Histogram} (few : 100 * h.weight < UInt64.size)
    (percent : UInt64) : h.percentile? percent = some (h.percentile percent) := by
  obtain ⟨counted, total⟩ := total?_eq_some (h := h) (by omega)
  have inBuckets : (0 : UInt64).toNat + held h.buckets < UInt64.size := by
    simp [weight] at few ⊢
    omega
  rw [percentile?, counted, Option.bind_eq_bind, Option.bind_some, percentile]
  split
  · rfl
  · rw [rank?_eq_some (by rwa [total])]
    exact boundAtRank?_eq_some _ _ _ inBuckets

/-- With more observations the share may not be a word. -/
example : ({ empty with overflow := 2 ^ 63 } : Histogram).percentile? 50 = none := by
  decide +kernel

/-- Counting an observation adds one to what is held. -/
theorem held_count (micros : UInt64) (buckets : List Bucket) (overflow : UInt64)
    (room : held buckets + overflow.toNat + 1 < UInt64.size) :
    held (count micros buckets overflow).1 + (count micros buckets overflow).2.toNat =
      held buckets + overflow.toNat + 1 := by
  induction buckets with
  | nil =>
    have fits : overflow.toNat + (1 : UInt64).toNat < UInt64.size := by
      simpa [held] using room
    simp [count, held, toNat_add_of_lt fits]
  | cons bucket rest ih =>
    obtain ⟨bound, n⟩ := bucket
    simp only [held, List.map_cons, List.sum_cons] at room ih ⊢
    rw [count]
    split
    · have fits : n.toNat + (1 : UInt64).toNat < UInt64.size := by
        rw [UInt64.toNat_one]
        omega
      simp only [List.map_cons, List.sum_cons, toNat_add_of_lt fits, UInt64.toNat_one]
      omega
    · have counted := ih (by omega)
      simp only [List.map_cons, List.sum_cons]
      omega

theorem weight_observe {h : Histogram} (room : h.weight + 1 < UInt64.size) (d : Duration) :
    (h.observe d).weight = h.weight + 1 :=
  held_count d.microseconds h.buckets h.overflow room

/-- A histogram holds as many durations as it was shown. -/
theorem weight_observeAll (ds : List Duration) (few : ds.length < UInt64.size) :
    (observeAll .empty ds).weight = ds.length := by
  induction ds using List.reverseRecOn with
  | nil => rfl
  | append_singleton ds d ih =>
    rw [List.length_append, List.length_singleton] at few ⊢
    have before := ih (by omega)
    have step := weight_observe (h := observeAll .empty ds) (by omega) d
    rw [observeAll, List.foldl_concat, ← observeAll, step, before]

end AdminPort.Histogram

namespace AdminPort.Latency

/-! ## Rounding -/

theorem toNat_microseconds (d : Duration) : d.microseconds.toNat = wholeMicros d := by
  have small : min (d.seconds.toNat * 1000000 + d.nanoseconds / 1000) (UInt64.size - 1) <
      UInt64.size :=
    Nat.lt_of_le_of_lt (Nat.min_le_right _ _) (by decide)
  rw [Duration.microseconds, UInt64.toNat_ofNat_of_lt' small, wholeMicros]
  congr 1
  omega

/-- The durations in order are the same in whole microseconds as in words. -/
theorem map_toNat_inOrder (ds : List Duration) :
    (inOrder ds).map UInt64.toNat = wholeInOrder ds := by
  have whole : (ds.map (·.microseconds)).map UInt64.toNat = ds.map wholeMicros := by
    simp only [List.map_map, Function.comp_def, toNat_microseconds]
  rw [inOrder, List.map_mergeSort (s := fun m n => decide (m ≤ n)), whole, wholeInOrder]
  intro a _ b _
  rw [decide_eq_decide, UInt64.le_iff_toNat_le]

/-- The bound of a bucket is the value rounded up. -/
theorem roundsUp_boundOf? (micros : UInt64) :
    RoundsUp micros.toNat ((boundOf? micros).getD lastBound) := by
  rw [boundOf?]
  cases found : bounds.find? (micros ≤ ·) with
  | none =>
    refine .inr ⟨fun b mem => ?_, rfl⟩
    have beyond := List.find?_eq_none.1 found b mem
    simpa [← UInt64.lt_iff_toNat_lt] using beyond
  | some b =>
    obtain ⟨fits, passed, rest, split, beyond⟩ := List.find?_eq_some_iff_append.1 found
    simp only [decide_eq_true_eq] at fits
    refine .inl ⟨List.mem_of_find?_eq_some found, UInt64.le_iff_toNat_le.1 fits, ?_⟩
    intro c mem above
    have sorted : bounds.Pairwise (· ≤ ·) := by decide
    rw [split] at sorted mem
    obtain before | rfl | after := by simpa using mem
    · have := beyond c before
      simp [UInt64.le_iff_toNat_le, above] at this
    · exact UInt64.le_refl _
    · exact (List.pairwise_cons.1 (List.pairwise_append.1 sorted).2.1).1 c after

/-- A larger value is not rounded to a smaller bound. -/
theorem roundsUp_mono {m n : Nat} {r s : UInt64} (rounds : RoundsUp m r) (rounds' : RoundsUp n s)
    (le : m ≤ n) : r ≤ s := by
  have last : ∀ b ∈ bounds, b ≤ lastBound := by simp [bounds, lastBound]
  obtain ⟨mem, -, least⟩ | ⟨beyond, rfl⟩ := rounds <;>
    obtain ⟨mem', above, -⟩ | ⟨-, rfl⟩ := rounds'
  · exact least s mem' (le.trans above)
  · exact last r mem
  · exact absurd (beyond s mem') (by omega)
  · exact UInt64.le_refl _

/-! ## Ranks -/

/-- The rank is the least one, from 1, that takes in the share. -/
theorem rankOf_le_iff {total percent k : Nat} :
    rankOf total percent ≤ k ↔ 1 ≤ k ∧ total * min percent 100 ≤ 100 * k := by
  rw [rankOf]
  omega

theorem rankOf_mono (total : Nat) {percent percent' : Nat} (le : percent ≤ percent') :
    rankOf total percent ≤ rankOf total percent' := by
  obtain ⟨positive, share⟩ := rankOf_le_iff.1 (Nat.le_refl (rankOf total percent'))
  have capped : min percent 100 ≤ min percent' 100 := by omega
  exact rankOf_le_iff.2 ⟨positive, (Nat.mul_le_mul_left total capped).trans share⟩

theorem rankOf_le {total : Nat} (positive : 0 < total) (percent : Nat) :
    rankOf total percent ≤ total := by
  refine rankOf_le_iff.2 ⟨positive, ?_⟩
  rw [Nat.mul_comm 100]
  exact Nat.mul_le_mul_left total (Nat.min_le_right _ _)

/-! ## Percentiles -/

theorem percentile_nil (percent : UInt64) : (observeAll .empty []).percentile percent = 0 := by
  rw [Histogram.percentile, total_observeAll]
  rfl

section

variable {ds : List Duration} (few : 100 * ds.length < UInt64.size)

include few

/-- A percentile is the duration of its rank, rounded up to a bound. -/
theorem bounded_percentile (nonempty : ds ≠ []) (percent : UInt64) :
    ∃ m, (wholeInOrder ds)[rankOf ds.length percent.toNat - 1]? = some m ∧
      RoundsUp m ((observeAll .empty ds).percentile percent) := by
  have length : (inOrder ds).length = ds.length := by simp [inOrder]
  have positive : 0 < ds.length := List.length_pos_iff.2 nonempty
  have least : 1 ≤ rankOf ds.length percent.toNat := Nat.le_max_left _ _
  have inside : rankOf ds.length percent.toNat - 1 < (inOrder ds).length := by
    have := rankOf_le positive percent.toNat
    omega
  have found := List.getElem?_eq_getElem inside
  rw [percentile_observeAll ds few, percentileOf, found, ← map_toNat_inOrder, List.getElem?_map,
    found]
  exact ⟨_, rfl, roundsUp_boundOf? _⟩

theorem percentile_mono {percent percent' : UInt64} (le : percent ≤ percent') :
    (observeAll .empty ds).percentile percent ≤ (observeAll .empty ds).percentile percent' := by
  by_cases none : ds = []
  · rw [none, percentile_nil, percentile_nil]
    exact UInt64.le_refl _
  · obtain ⟨m, found, rounds⟩ := bounded_percentile few none percent
    obtain ⟨n, found', rounds'⟩ := bounded_percentile few none percent'
    refine roundsUp_mono rounds rounds' ?_
    have sorted : (wholeInOrder ds).Pairwise (· ≤ ·) := List.pairwise_mergeSort' _ _
    have ranks := rankOf_mono ds.length (UInt64.le_iff_toNat_le.1 le)
    obtain ⟨inside, rfl⟩ := List.getElem?_eq_some_iff.1 found
    obtain ⟨inside', rfl⟩ := List.getElem?_eq_some_iff.1 found'
    exact sorted.sortedLE.getElem_le_getElem_of_le (by omega)

end

/-- A percentile read off a histogram is that of the durations it was shown, rounded up
to a bound, and 0 where there are none. It is computed without an overflow, in whatever
order the durations came, and grows with the percentage. -/
theorem percentile_orderStatistic (ds : List Duration) (few : 100 * ds.length < UInt64.size)
    (percent : UInt64) :
    (observeAll .empty ds).percentile? percent = some ((observeAll .empty ds).percentile percent) ∧
      (ds = [] → (observeAll .empty ds).percentile percent = 0) ∧
      (ds ≠ [] → ∃ m, (wholeInOrder ds)[rankOf ds.length percent.toNat - 1]? = some m ∧
        RoundsUp m ((observeAll .empty ds).percentile percent)) ∧
      (∀ es, es.Perm ds →
        (observeAll .empty es).percentile percent = (observeAll .empty ds).percentile percent) ∧
      ∀ percent', percent ≤ percent' →
        (observeAll .empty ds).percentile percent ≤ (observeAll .empty ds).percentile percent' := by
  have weight := Histogram.weight_observeAll ds (by omega)
  refine ⟨?_, ?_, fun nonempty => bounded_percentile few nonempty percent, ?_,
    fun percent' le => percentile_mono few le⟩
  · exact Histogram.percentile?_eq_some (by rwa [weight]) percent
  · rintro rfl
    exact percentile_nil percent
  · intro es perm
    rw [observeAll_perm perm]

/-- One duration above every bound, one at a bound and one just above it. -/
def exDurations : List Duration := [⟨61, 0⟩, ⟨0, 100000⟩, ⟨0, 101000⟩]

theorem percentile_orderStatistic_exDurations :
    100 * exDurations.length < UInt64.size ∧ exDurations ≠ [] ∧
      (observeAll .empty exDurations).percentile? 50 = some 500 ∧
      (∃ m, (wholeInOrder exDurations)[rankOf 3 50 - 1]? = some m ∧ RoundsUp m 500) ∧
      (observeAll .empty exDurations.reverse).percentile 50 = 500 ∧
      500 ≤ (observeAll .empty exDurations).percentile 95 := by
  have few : 100 * exDurations.length < UInt64.size := by decide
  have nonempty : exDurations ≠ [] := by decide
  have middle : (observeAll .empty exDurations).percentile 50 = 500 := by decide
  obtain ⟨computed, -, bounded, order, grows⟩ := percentile_orderStatistic exDurations few 50
  rw [middle] at computed bounded order grows
  exact ⟨few, nonempty, computed, bounded nonempty, order _ (List.reverse_perm _),
    grows 95 (by decide)⟩

end AdminPort.Latency
