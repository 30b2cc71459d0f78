import AdminPort.Latency
import Mathlib.Data.List.Sort
import Mathlib.Data.UInt

/-!
# Percentiles of a history

The histogram forgets the order of the durations that it was shown and rounds
each up to the bound of its bucket; nothing else is lost. A percentile read off
it is that of the durations themselves: the one of the rank asked for, when they
are put in order, rounded up to a bound.

Counts are words, so this holds while a hundred times the number of observations
fits into one.

Results:
1. `grown_observeAll`: each bucket grows by the durations that fall into it, and all
   together by as many as there are.
2. `observeAll_perm`: the order of durations is forgotten.
3. `boundAtRank_eq`: the walk over the buckets stops at the first bound with enough below it.
4. `percentile_observeAll`, `percentileMillis_observeAll`: a percentile is the bound of the
   order statistic, in microseconds and in milliseconds.
-/

namespace AdminPort.Latency

/-! ## Definitions -/

/-- The bound of the bucket of a duration in microseconds, if it is in any. -/
def boundOf? (micros : UInt64) : Option UInt64 := bounds.find? (micros ≤ ·)

/-- The microseconds of durations, the least first. -/
def inOrder (ds : List Duration) : List UInt64 :=
  (ds.map (·.microseconds)).mergeSort (· ≤ ·)

/-- The rank that a percentile of a number of observations asks for, from 1: the
share rounded up. -/
def rankOf (total percent : Nat) : Nat := max 1 ((total * min percent 100 + 99) / 100)

/-- The percentile of durations in microseconds: the one of that rank, rounded up
to a bound, and 0 when there is none. -/
def percentileOf (ds : List Duration) (percent : Nat) : UInt64 :=
  match (inOrder ds)[rankOf ds.length percent - 1]? with
  | none => 0
  | some micros => (boundOf? micros).getD lastBound

/-- A percentile of durations in milliseconds, rounded up. -/
def percentileMillisOf (ds : List Duration) (percent : Nat) : Nat :=
  ((percentileOf ds percent).toNat + 999) / 1000

/-- A histogram after durations in order. -/
def observeAll (h : Histogram) (ds : List Duration) : Histogram := ds.foldl Histogram.observe h

/-- `Grown h ds h'`: the histogram `h` has grown to `h'` by the durations.

* `buckets`: each bucket has grown by the durations that fall into it.
* `overflow`: the overflow has grown by those that fall into none.
* `total`: all together have grown by as many observations as there are durations. -/
structure Grown (h : Histogram) (ds : List Duration) (h' : Histogram) : Prop where
  buckets : h'.buckets = h.buckets.map fun b =>
    (b.1, b.2 + UInt64.ofNat (ds.countP fun d => boundOf? d.microseconds = some b.1))
  overflow : h'.overflow =
    h.overflow + UInt64.ofNat (ds.countP fun d => boundOf? d.microseconds = none)
  total : h'.total = h.total + UInt64.ofNat ds.length

/-! ## Buckets -/

/-- A duration is counted at its bound, or in the overflow. -/
theorem count_eq (micros : UInt64) {buckets : List Bucket} (nodup : (buckets.map (·.1)).Nodup)
    (overflow : UInt64) :
    count micros buckets overflow =
      (buckets.map fun b =>
          (b.1, b.2 + if (buckets.map (·.1)).find? (micros ≤ ·) = some b.1 then 1 else 0),
        overflow + if (buckets.map (·.1)).find? (micros ≤ ·) = none then 1 else 0) := by
  induction buckets with
  | nil => rfl
  | cons b rest ih =>
    obtain ⟨bound, n⟩ := b
    obtain ⟨fresh, nodup⟩ := List.nodup_cons.1 nodup
    rw [count]
    by_cases fits : micros ≤ bound
    · have found : (((bound, n) :: rest).map (·.1)).find? (micros ≤ ·) = some bound := by
        simp [fits]
      have others : ∀ c ∈ rest, bound ≠ c.1 := fun c mem same =>
        fresh (List.mem_map.2 ⟨c, mem, same.symm⟩)
      have kept : rest.map (fun b => (b.1, b.2 + if some bound = some b.1 then 1 else 0)) = rest :=
        (List.map_congr_left fun c mem => by simp [others c mem]).trans (List.map_id rest)
      rw [if_pos fits, found, List.map_cons, kept]
      simp
    · have found : (((bound, n) :: rest).map (·.1)).find? (micros ≤ ·) =
          (rest.map (·.1)).find? (micros ≤ ·) :=
        List.find?_cons_of_neg (by simpa using fits)
      have other : (rest.map (·.1)).find? (micros ≤ ·) ≠ some bound := fun h =>
        fresh (List.mem_of_find?_eq_some h)
      rw [if_neg fits, ih nodup, found, List.map_cons, if_neg other, UInt64.add_zero]

theorem total_eq (h : Histogram) : h.total = (h.buckets.map (·.2)).sum + h.overflow := by
  rw [Histogram.total, List.sum_eq_foldl, List.foldl_map]

/-- Counting adds one to the sum of all counts. -/
theorem sum_count (micros : UInt64) (buckets : List Bucket) (overflow : UInt64) :
    ((count micros buckets overflow).1.map (·.2)).sum + (count micros buckets overflow).2 =
      (buckets.map (·.2)).sum + overflow + 1 := by
  induction buckets with
  | nil => exact (UInt64.add_assoc _ _ _).symm
  | cons b rest ih =>
    rw [count]
    split
    · simp only [List.map_cons, List.sum_cons]
      grind
    · simp only [List.map_cons, List.sum_cons]
      grind

namespace Grown

theorem refl (h : Histogram) : Grown h [] h where
  buckets := by simp
  overflow := by simp
  total := by simp

/-- One more observation. -/
theorem observe (h : Histogram) (d : Duration) : Grown h [d] (h.observe d) := by
  have nodup : (h.buckets.map (·.1)).Nodup := h.bounds_eq ▸ by decide
  have counted := count_eq d.microseconds nodup h.overflow
  rw [h.bounds_eq, ← boundOf?] at counted
  have buckets : (h.observe d).buckets = _ := congrArg Prod.fst counted
  have overflow : (h.observe d).overflow = _ := congrArg Prod.snd counted
  exact {
    buckets := by
      rw [buckets]
      refine List.map_congr_left fun b _ => ?_
      by_cases here : boundOf? d.microseconds = some b.1 <;> simp [here]
    overflow := by
      rw [overflow]
      by_cases beyond : boundOf? d.microseconds = none <;> simp [beyond]
    total := by
      rw [total_eq, total_eq]
      exact sum_count _ _ _ }

/-- Growth by one list and then by another. -/
theorem trans {h h' h'' : Histogram} {ds es : List Duration} (first : Grown h ds h')
    (second : Grown h' es h'') : Grown h (ds ++ es) h'' where
  buckets := by
    rw [second.buckets, first.buckets, List.map_map]
    refine List.map_congr_left fun b _ => ?_
    simp [List.countP_append, UInt64.ofNat_add, UInt64.add_assoc]
  overflow := by
    rw [second.overflow, first.overflow, List.countP_append, UInt64.ofNat_add, UInt64.add_assoc]
  total := by
    rw [second.total, first.total, List.length_append, UInt64.ofNat_add, UInt64.add_assoc]

end Grown

/-- A histogram grows by the durations that it is shown. -/
theorem grown_observeAll (h : Histogram) (ds : List Duration) : Grown h ds (observeAll h ds) := by
  induction ds generalizing h with
  | nil => exact .refl h
  | cons d ds ih => exact (Grown.observe h d).trans (ih (h.observe d))

/-- Each bucket counts the durations that fall into it. -/
theorem buckets_observeAll (ds : List Duration) :
    (observeAll .empty ds).buckets = bounds.map fun b =>
      (b, UInt64.ofNat (ds.countP fun d => boundOf? d.microseconds = some b)) := by
  rw [(grown_observeAll .empty ds).buckets, Histogram.empty, List.map_map]
  simp [Function.comp_def]

/-- The buckets and the overflow hold every duration once. -/
theorem total_observeAll (ds : List Duration) :
    (observeAll .empty ds).total = UInt64.ofNat ds.length := by
  rw [(grown_observeAll .empty ds).total]
  exact UInt64.zero_add _

/-- It makes no difference which of two durations is counted first. -/
theorem count_comm (m n : UInt64) (buckets : List Bucket) (overflow : UInt64) :
    count m (count n buckets overflow).1 (count n buckets overflow).2 =
      count n (count m buckets overflow).1 (count m buckets overflow).2 := by
  induction buckets with
  | nil => rfl
  | cons b rest ih =>
    obtain ⟨bound, k⟩ := b
    by_cases first : m ≤ bound <;> by_cases second : n ≤ bound <;>
      simp [count, first, second, ih]

theorem observe_comm (h : Histogram) (d e : Duration) :
    (h.observe d).observe e = (h.observe e).observe d := by
  have same := count_comm e.microseconds d.microseconds h.buckets h.overflow
  simp only [Histogram.observe, same]

/-- The order of durations is forgotten. -/
theorem observeAll_perm {ds es : List Duration} (perm : ds.Perm es) (h : Histogram) :
    observeAll h ds = observeAll h es :=
  perm.foldl_eq' (fun d _ e _ h => observe_comm h d e) h

/-! ## Ranks -/

/-- Whether a duration is within some bound of a list. -/
def within (bs : List UInt64) (d : Duration) : Bool := bs.any (d.microseconds ≤ ·)

theorem countP_within_nil (ds : List Duration) : ds.countP (within []) = 0 := by
  simp [within]

theorem countP_add_countP {α : Type} (l : List α) {p q : α → Bool}
    (apart : ∀ a, p a = true → q a = false) :
    l.countP p + l.countP q = l.countP fun a => p a || q a := by
  induction l with
  | nil => rfl
  | cons a l ih =>
    have := apart a
    simp only [List.countP_cons]
    cases hp : p a <;> cases hq : q a <;> simp_all <;> omega

section

variable {passed rest : List UInt64} {b : UInt64} (split : bounds = passed ++ b :: rest)

include split

/-- A duration falls into the first bucket whose bound it is within. -/
theorem boundOf?_eq_some_iff (d : Duration) :
    boundOf? d.microseconds = some b ↔ within passed d = false ∧ d.microseconds ≤ b := by
  have nodup : (passed ++ b :: rest).Nodup := split ▸ by decide
  have fresh : ∀ c ∈ passed, c ≠ b := fun c mem => (List.nodup_append.1 nodup).2.2 c mem b (by simp)
  rw [boundOf?, split, List.find?_append, within]
  cases found : passed.find? (d.microseconds ≤ ·) with
  | some c =>
    have mem := List.mem_of_find?_eq_some found
    have fits : d.microseconds ≤ c := by simpa using List.find?_some found
    have : passed.any (d.microseconds ≤ ·) = true :=
      List.any_eq_true.2 ⟨c, mem, by simpa using fits⟩
    simp [fresh c mem, this]
  | none =>
    have beyond : passed.any (d.microseconds ≤ ·) = false := by
      simpa using List.find?_eq_none.1 found
    by_cases fits : d.microseconds ≤ b
    · simp [beyond, fits]
    · have : rest.find? (d.microseconds ≤ ·) ≠ some b := fun h =>
        fits (by simpa using List.find?_some h)
      simpa [beyond, fits, List.find?_cons] using this

/-- The bucket at a bound adds the durations that this bound takes in. -/
theorem countP_within_concat (ds : List Duration) :
    ds.countP (within passed) + ds.countP (fun d => boundOf? d.microseconds = some b) =
      ds.countP (within (passed ++ [b])) := by
  rw [countP_add_countP]
  · refine List.countP_congr fun d _ => ?_
    simp only [boundOf?_eq_some_iff split, within, List.any_append]
    cases passed.any (d.microseconds ≤ ·) <;> simp
  · intro d taken
    simp [boundOf?_eq_some_iff split, taken]

/-- Bounds grow, so the last of several is the one that counts. -/
theorem within_concat (d : Duration) : within (passed ++ [b]) d = decide (d.microseconds ≤ b) := by
  have sorted : (passed ++ b :: rest).Pairwise (· ≤ ·) := split ▸ by decide
  have below : ∀ c ∈ passed, c ≤ b := fun c mem =>
    (List.pairwise_append.1 sorted).2.2 c mem b (by simp)
  rw [within, List.any_append, Bool.eq_iff_iff]
  simp only [Bool.or_eq_true, List.any_eq_true, decide_eq_true_eq]
  constructor
  · rintro (⟨c, mem, fits⟩ | ⟨c, mem, fits⟩)
    · exact UInt64.le_trans fits (below c mem)
    · cases List.mem_singleton.1 mem
      exact fits
  · exact fun fits => .inr ⟨b, by simp, fits⟩

end

/-- The walk over the buckets stops at the first bound with enough durations within it. -/
theorem boundAtRank_eq (ds : List Duration) (few : ds.length < UInt64.size) (rank : UInt64)
    (passed rest : List UInt64) (split : bounds = passed ++ rest) :
    Histogram.boundAtRank rank (UInt64.ofNat (ds.countP (within passed)))
        (rest.map fun b =>
          (b, UInt64.ofNat (ds.countP fun d => boundOf? d.microseconds = some b))) =
      (rest.find? fun b => rank.toNat ≤ ds.countP (·.microseconds ≤ b)).getD lastBound := by
  induction rest generalizing passed with
  | nil => rfl
  | cons b rest ih =>
    have seen : UInt64.ofNat (ds.countP (within passed)) +
        UInt64.ofNat (ds.countP fun d => boundOf? d.microseconds = some b) =
          UInt64.ofNat (ds.countP (within (passed ++ [b]))) := by
      rw [← UInt64.ofNat_add, countP_within_concat split]
    have taken : ds.countP (within (passed ++ [b])) = ds.countP (·.microseconds ≤ b) := by
      simp only [funext (within_concat split)]
    have small : ds.countP (·.microseconds ≤ b) < UInt64.size :=
      Nat.lt_of_le_of_lt List.countP_le_length few
    have enough : rank ≤ UInt64.ofNat (ds.countP (·.microseconds ≤ b)) ↔
        rank.toNat ≤ ds.countP (·.microseconds ≤ b) := by
      rw [UInt64.le_iff_toNat_le, UInt64.toNat_ofNat_of_lt' small]
    rw [List.map_cons, Histogram.boundAtRank, seen, ih (passed ++ [b]) (by simpa using split),
      taken]
    by_cases reached : rank.toNat ≤ ds.countP (·.microseconds ≤ b)
    · rw [if_pos (enough.2 reached), List.find?_cons_of_pos (by simpa using reached)]
      rfl
    · rw [if_neg (mt enough.1 reached), List.find?_cons_of_neg (by simpa using reached)]

/-- In a list that is put in order, an element is at most a bound if more than come
before it are. -/
theorem getElem?_le_iff {l : List UInt64} (sorted : l.Pairwise (· ≤ ·)) {k : Nat} {m : UInt64}
    (at_k : l[k]? = some m) (b : UInt64) : m ≤ b ↔ k < l.countP (· ≤ b) := by
  induction l generalizing k with
  | nil => simp at at_k
  | cons a l ih =>
    obtain ⟨least, sorted⟩ := List.pairwise_cons.1 sorted
    by_cases fits : a ≤ b
    · cases k with
      | zero =>
        simp at at_k
        simp [← at_k, fits]
      | succ k =>
        rw [ih sorted (by simpa using at_k)]
        simp [fits]
    · -- everything behind the head is above the bound as well
      have none : ∀ c ∈ a :: l, ¬ c ≤ b := by
        intro c mem h
        rcases List.mem_cons.1 mem with rfl | mem
        · exact fits h
        · exact fits (UInt64.le_trans (least c mem) h)
      have empty : (a :: l).countP (· ≤ b) = 0 := by
        rw [List.countP_eq_zero]
        simpa using none
      simp only [empty, Nat.not_lt_zero, iff_false]
      exact none m (List.mem_of_getElem? at_k)

/-! ## Percentiles -/

/-- A quotient of words that is rounded up. -/
theorem toNat_div_up (s d : UInt64) (positive : 0 < d.toNat) :
    (s / d + if s % d = 0 then 0 else 1).toNat = (s.toNat + (d.toNat - 1)) / d.toNat := by
  have zero : s % d = 0 ↔ s.toNat % d.toNat = 0 := by
    rw [← UInt64.toNat_inj, UInt64.toNat_mod, UInt64.toNat_zero]
  have split := Nat.div_add_mod s.toNat d.toNat
  have below := Nat.mod_lt s.toNat positive
  have word := s.toNat_lt
  have atMost := Nat.le_mul_of_pos_left (s.toNat / d.toNat) positive
  have up : (s.toNat + (d.toNat - 1)) / d.toNat =
      s.toNat / d.toNat + (s.toNat % d.toNat + (d.toNat - 1)) / d.toNat := by
    conv_lhs => rw [← split, Nat.add_assoc, Nat.mul_add_div positive]
  rw [UInt64.toNat_add, UInt64.toNat_div, up]
  by_cases exactly : s.toNat % d.toNat = 0
  · rw [if_pos (zero.2 exactly), exactly, Nat.div_eq_of_lt (by omega : 0 + (d.toNat - 1) < d.toNat)]
    exact Nat.mod_eq_of_lt (by simp; omega)
  · have once : (s.toNat % d.toNat + (d.toNat - 1)) / d.toNat = 1 :=
      Nat.div_eq_of_lt_le (by omega) (by omega)
    rw [if_neg (mt zero.1 exactly), once]
    exact Nat.mod_eq_of_lt (by simp; omega)

/-- The rank is computed without a wrap. -/
theorem toNat_rank {total : Nat} (few : 100 * total < UInt64.size) (percent : UInt64) :
    (Histogram.rank (UInt64.ofNat total) percent).toNat = rankOf total percent.toNat := by
  have capped : (min percent 100).toNat = min percent.toNat 100 := UInt64.toNat_min percent 100
  have share : (UInt64.ofNat total * min percent 100).toNat = total * min percent.toNat 100 := by
    rw [UInt64.toNat_mul, capped, UInt64.toNat_ofNat_of_lt' (by omega)]
    refine Nat.mod_eq_of_lt (Nat.lt_of_le_of_lt ?_ few)
    rw [Nat.mul_comm 100]
    exact Nat.mul_le_mul_left total (Nat.min_le_right _ _)
  have rounded := toNat_div_up (UInt64.ofNat total * min percent 100) 100 (by decide)
  rw [share] at rounded
  rw [Histogram.rank, rankOf, Nat.max_comm]
  exact (UInt64.toNat_max _ _).trans (congrArg (max · 1) rounded)

/-- A percentile read off the histogram is that of the durations it was shown. -/
theorem percentile_observeAll (ds : List Duration) (few : 100 * ds.length < UInt64.size)
    (percent : UInt64) :
    (observeAll .empty ds).percentile percent = percentileOf ds percent.toNat := by
  have fewer : ds.length < UInt64.size := by omega
  have length : (inOrder ds).length = ds.length := by simp [inOrder]
  rw [Histogram.percentile, total_observeAll, percentileOf]
  cases found : (inOrder ds)[rankOf ds.length percent.toNat - 1]? with
  | none =>
    -- the rank never exceeds the number of durations, so there are none
    have empty : ds.length = 0 := by
      have := List.getElem?_eq_none_iff.1 found
      rw [length, rankOf] at this
      have := Nat.mul_le_mul_left ds.length (Nat.min_le_right percent.toNat 100)
      omega
    simp [empty]
  | some micros =>
    have inside : rankOf ds.length percent.toNat - 1 < ds.length :=
      length ▸ (List.getElem?_eq_some_iff.1 found).1
    have nonempty : UInt64.ofNat ds.length ≠ 0 := by
      intro zero
      have := congrArg UInt64.toNat zero
      rw [UInt64.toNat_ofNat_of_lt' fewer] at this
      simp at this
      simp [this] at inside
    have sorted : (inOrder ds).Pairwise (· ≤ ·) := List.pairwise_mergeSort' _ _
    have enough (b : UInt64) : rankOf ds.length percent.toNat ≤ ds.countP (·.microseconds ≤ b) ↔
        micros ≤ b := by
      rw [getElem?_le_iff sorted found, inOrder, (List.mergeSort_perm _ _).countP_eq,
        List.countP_map]
      have : 1 ≤ rankOf ds.length percent.toNat := Nat.le_max_left _ _
      simp only [Function.comp_def]
      omega
    have walked := boundAtRank_eq ds fewer (Histogram.rank (UInt64.ofNat ds.length) percent) []
      bounds rfl
    rw [if_neg nonempty, buckets_observeAll]
    simp only [toNat_rank few, enough, countP_within_nil] at walked
    exact walked

theorem percentileMillisOf_lt (ds : List Duration) (percent : Nat) :
    percentileMillisOf ds percent < UInt64.size := by
  have word : (percentileOf ds percent).toNat < UInt64.size := (percentileOf ds percent).toNat_lt
  have positive : 999 < UInt64.size := by decide
  rw [percentileMillisOf]
  omega

theorem percentileMillis_observeAll (ds : List Duration) (few : 100 * ds.length < UInt64.size)
    (percent : UInt64) :
    (observeAll .empty ds).percentileMillis percent =
      UInt64.ofNat (percentileMillisOf ds percent.toNat) := by
  have rounded := toNat_div_up (percentileOf ds percent.toNat) 1000 (by decide)
  rw [Histogram.percentileMillis, percentile_observeAll ds few, ← UInt64.toNat_inj,
    UInt64.toNat_ofNat_of_lt' (percentileMillisOf_lt ds _)]
  exact rounded

end AdminPort.Latency
