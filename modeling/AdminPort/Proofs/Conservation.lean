import AdminPort.Proofs.History

/-!
# No point is lost or counted twice

A point that is taken waits in the buffer until a flush writes it out. At every
moment of a history each point that was taken so far is in one of the two
places: the last flush that reached the store cuts the history in two, the
points before the cut are written, and those behind it wait.

A flush is called for on its own or by stopping the daemon. Each call uses up one
entry of the schedule, which says whether it reaches the store.

The counters of the store are words. What they tell of a history is exact modulo
the size of a word for every history, and exact outright as long as the number
that is counted fits a word.

Results:
1. `nextFlush_run`: each call for a flush uses up one entry of the schedule.
2. `flushes_run`: the flushes of the store are the calls that reached it.
3. `store_of_failedFlush`, `size_of_written`: what a call does to the store.
4. `conserved_run`: the store accounts for every history.
5. `pointsWritten_mono`: what is written stays written.
6. `points_conserved`: no point is lost or counted twice.
-/

namespace AdminPort

/-! ## Definitions -/

/-- Whether a step calls for a flush of the store, however the flush ends. -/
def Step.callsFlush (setup : Setup) : Step → Bool
  | dispatch _ request _ => decide (Meets setup request (.command .shutdown))
  | flush => true
  | _ => false

/-- How a flush ends that comes after `n` others, by a schedule. -/
def FlushOutcome.scheduled (flushes : List FlushOutcome) (n : Nat) : FlushOutcome :=
  flushes[n]?.getD .written

/-- The number of calls for a flush that reached the store in a history. -/
def flushesReached (setup : Setup) (flushes : List FlushOutcome) (past : List Step) : Nat :=
  (List.range (past.countP (Step.callsFlush setup))).countP
    fun n => decide (FlushOutcome.scheduled flushes n = .written)

/-- `Conserved setup flushes past store`: the store accounts for a history under a
schedule of flushes.

* `nothingLost`: each point that was taken is either written or in the buffer,
  once and in its place.
* `flushed`, `reached`: the counters count the points that were written and the
  flushes that reached the store.
* `balance`: buffer and counter add up to the points that were taken, as words.
* `exact`, `exactReached`: as numbers they do so exactly as long as the number
  that is counted fits a word. -/
structure Conserved (setup : Setup) (flushes : List FlushOutcome) (past : List Step)
    (store : PointStore) : Prop where
  nothingLost : pointsWritten setup (.initial flushes) past ++ store.buffered.toList =
    past.filterMap Step.point?
  flushed : store.flushed = UInt64.ofNat (pointsWritten setup (.initial flushes) past).length
  reached : store.flushes = UInt64.ofNat (flushesReached setup flushes past)
  balance : UInt64.ofNat store.size + store.flushed =
    UInt64.ofNat (past.filterMap Step.point?).length
  exact : store.size + store.flushed.toNat = (past.filterMap Step.point?).length ↔
    (pointsWritten setup (.initial flushes) past).length < UInt64.size
  exactReached : store.flushes.toNat = flushesReached setup flushes past ↔
    flushesReached setup flushes past < UInt64.size

/-! ## The schedule of flushes -/

section

variable (setup : Setup) (s : State)

theorem flushes_eq (step : Step) :
    step.flushes setup s = (step.callsFlush setup && decide (s.nextFlush = .written)) := by
  have written : s.nextFlush.fault?.isNone = decide (s.nextFlush = .written) := by
    cases s.nextFlush <;> rfl
  cases step <;> simp [Step.flushes, Step.callsFlush, written]

theorem schedule_step (step : Step) :
    (s.step setup step).flushes =
      if step.callsFlush setup then s.flushes.tail else s.flushes := by
  cases step with
  | dispatch clock request conn =>
    rw [State.step, Step.callsFlush]
    -- a request uses up an entry only by stopping the daemon, however the flush ends
    by_cases met : Meets setup request (.command .shutdown)
    · rw [if_pos (decide_eq_true met)]
      cases h : s.nextFlush.fault? with
      | none => rw [dispatch_of_written met h]
      | some fault => rw [dispatch_of_failedFlush met h]
    · have untouched : Untouched s (dispatch setup clock s request conn) :=
        untouched_of_not_meets met
      simpa [met] using untouched.schedule
  | addPoint point =>
    rw [State.step]
    split <;> rfl
  | flush =>
    rw [State.step, State.flush]
    cases s.nextFlush.fault? <;> rfl
  | _ => rfl

theorem schedule_run (past : List Step) :
    (s.run setup past).flushes = s.flushes.drop (past.countP (Step.callsFlush setup)) := by
  induction past generalizing s with
  | nil => rfl
  | cons step rest ih =>
    rw [State.run_cons, ih, schedule_step, List.countP_cons]
    cases step.callsFlush setup <;> simp

end

section

variable (setup : Setup) (flushes : List FlushOutcome)

/-- Each call for a flush uses up one entry of the schedule. -/
theorem nextFlush_run (past : List Step) :
    ((State.initial flushes).run setup past).nextFlush =
      FlushOutcome.scheduled flushes (past.countP (Step.callsFlush setup)) := by
  rw [State.nextFlush, schedule_run, List.head?_drop]
  rfl

theorem flushesReached_concat (past : List Step) (step : Step) :
    flushesReached setup flushes (past ++ [step]) =
      flushesReached setup flushes past +
        if step.flushes setup ((State.initial flushes).run setup past) then 1 else 0 := by
  rw [flushes_eq, nextFlush_run]
  simp only [flushesReached, List.countP_append, List.countP_singleton]
  cases step.callsFlush setup <;> simp [List.range_succ]

theorem flushes_run (past : List Step) :
    ((State.initial flushes).run setup past).store.flushes =
      UInt64.ofNat (flushesReached setup flushes past) := by
  induction past using List.reverseRecOn with
  | nil => rfl
  | append_singleton past step ih =>
    rw [State.run_concat, store_step, flushesReached_concat, UInt64.ofNat_add, ← ih]
    split <;> simp [PointStore.flush]

end

/-! ## One step -/

section

variable {setup : Setup} {s : State} {step : Step}

/-- A flush that fails leaves all of the store as it was, whether it was called for
on its own or by stopping the daemon. -/
theorem store_of_failedFlush (calls : step.callsFlush setup = true)
    (failing : s.nextFlush ≠ .written) : (s.step setup step).store = s.store := by
  have flushes : step.flushes setup s = false := by simp [flushes_eq, failing]
  have none : step.point? = none := by
    cases step with
    | addPoint => cases calls
    | _ => rfl
  simp [store_step, flushes, none]

theorem size_of_written (calls : step.callsFlush setup = true)
    (written : s.nextFlush = .written) : (s.step setup step).store.size = 0 := by
  have flushes : step.flushes setup s = true := by simp [flushes_eq, calls, written]
  simp [store_step, flushes]

end

namespace PointStore

/-- Only a metric without a name is refused, and it is put down to the client. -/
theorem add_eq_error_iff {store : PointStore} {point : DataPoint} {fault : Fault} :
    store.add point = .error fault ↔
      point.metric = "" ∧ fault = .badRequest "metric name must not be empty" := by
  unfold add
  split
  · next empty => simp [String.isEmpty_iff.1 empty, eq_comm]
  · next named => simp [mt String.isEmpty_iff.2 named]

end PointStore

/-! ## Histories -/

theorem toNat_ofNat_eq_iff (n : Nat) : (UInt64.ofNat n).toNat = n ↔ n < UInt64.size := by
  constructor
  · intro same
    rw [← same]
    exact UInt64.toNat_lt_size _
  · exact UInt64.toNat_ofNat_of_lt'

theorem conserved_run (setup : Setup) (flushes : List FlushOutcome) (past : List Step) :
    Conserved setup flushes past ((State.initial flushes).run setup past).store := by
  obtain ⟨buffered, flushed⟩ := points_history setup flushes past
  have reached := flushes_run setup flushes past
  generalize ((State.initial flushes).run setup past).store = store at buffered flushed reached
  have nothingLost := pointsWritten_append_pointsWaiting setup (.initial flushes) past
  rw [← buffered] at nothingLost
  -- as numbers the two halves always add up; it is the counters that can wrap
  have total : (pointsWritten setup (.initial flushes) past).length + store.size =
      (past.filterMap Step.point?).length := by
    rw [← nothingLost, List.length_append]
    rfl
  exact {
    nothingLost := nothingLost
    flushed := flushed
    reached := reached
    balance := by
      rw [flushed, ← total, UInt64.ofNat_add, UInt64.add_comm]
    exact := by
      rw [flushed, ← toNat_ofNat_eq_iff, ← total]
      omega
    exactReached := by
      rw [reached, toNat_ofNat_eq_iff] }

theorem pointsWritten_mono (setup : Setup) (s : State) {before past : List Step}
    (h : before <+: past) : pointsWritten setup s before <+: pointsWritten setup s past := by
  obtain ⟨rest, rfl⟩ := h
  induction rest using List.reverseRecOn with
  | nil => rw [List.append_nil]
  | append_singleton rest step ih =>
    refine ih.trans ?_
    -- one more step writes out all that waits, behind what is written, or nothing
    rw [← List.append_assoc, (points_concat setup s (before ++ rest) step).1]
    split
    · exact ⟨_, pointsWritten_append_pointsWaiting setup s (before ++ rest)⟩
    · exact List.prefix_rfl

/-- The counter of written points does not go down while their number fits a word. -/
theorem flushed_le_of_prefix {setup : Setup} {flushes : List FlushOutcome}
    {before past : List Step} (h : before <+: past)
    (fits : (pointsWritten setup (.initial flushes) past).length < UInt64.size) :
    ((State.initial flushes).run setup before).store.flushed ≤
      ((State.initial flushes).run setup past).store.flushed := by
  have le := (pointsWritten_mono setup (.initial flushes) h).length_le
  rw [(conserved_run setup flushes before).flushed, (conserved_run setup flushes past).flushed,
    UInt64.le_iff_toNat_le, UInt64.toNat_ofNat_of_lt' fits,
    UInt64.toNat_ofNat_of_lt' (Nat.lt_of_le_of_lt le fits)]
  exact le

/-- No point is lost or counted twice, whatever happens to the daemon: the store
accounts for every history, and what is written stays written. A flush that fails
changes nothing in the store and one that succeeds leaves no point in the buffer;
a point is refused exactly for a metric without a name, and then nothing changes. -/
theorem points_conserved (setup : Setup) (flushes : List FlushOutcome) (past : List Step) :
    let s := (State.initial flushes).run setup past
    Conserved setup flushes past s.store ∧
      (∀ before, before <+: past →
        pointsWritten setup (.initial flushes) before <+:
            pointsWritten setup (.initial flushes) past ∧
          ((pointsWritten setup (.initial flushes) past).length < UInt64.size →
            ((State.initial flushes).run setup before).store.flushed ≤ s.store.flushed)) ∧
      (∀ step, step.callsFlush setup = true →
        (s.nextFlush ≠ .written → (s.step setup step).store = s.store) ∧
          (s.nextFlush = .written → (s.step setup step).store.size = 0)) ∧
      ∀ point,
        (∀ fault, s.store.add point = .error fault ↔
          point.metric = "" ∧ fault = .badRequest "metric name must not be empty") ∧
          (point.metric = "" → s.step setup (.addPoint point) = s) := by
  intro s
  refine ⟨conserved_run setup flushes past, ?_, ?_, ?_⟩
  · intro before h
    exact ⟨pointsWritten_mono setup _ h, flushed_le_of_prefix h⟩
  · intro step calls
    exact ⟨store_of_failedFlush calls, size_of_written calls⟩
  · intro point
    refine ⟨fun fault => PointStore.add_eq_error_iff, ?_⟩
    intro nameless
    rw [State.step, PointStore.add_eq_error_iff.2 ⟨nameless, rfl⟩]

/-- A stop whose flush panics, a flush that succeeds, and three points, of which one
is refused: the first point is written, and the last one waits. -/
theorem points_conserved_exPast :
    let after := (State.initial [.panics .unreadable]).run exSetup
    let stop : Step := .dispatch exClock (exGet "/diediedie") exConn
    (after exPast).store.size + (after exPast).store.flushed.toNat = 2 ∧
      (after exPast).store.flushes.toNat = 1 ∧
      (after (exPast.take 2)).store.flushed ≤ (after exPast).store.flushed ∧
      (after (exPast.take 2)).nextFlush ≠ .written ∧
      ((after (exPast.take 2)).step exSetup stop).store = (after (exPast.take 2)).store ∧
      (after (exPast.take 3)).nextFlush = .written ∧
      ((after (exPast.take 3)).step exSetup .flush).store.size = 0 ∧
      (after exPast).step exSetup (.addPoint ⟨"", 0, 0⟩) = after exPast := by
  intro after stop
  obtain ⟨conserved, grows, -, refuses⟩ := points_conserved exSetup [.panics .unreadable] exPast
  obtain ⟨-, -, fails, -⟩ := points_conserved exSetup [.panics .unreadable] (exPast.take 2)
  obtain ⟨-, -, succeeds, -⟩ := points_conserved exSetup [.panics .unreadable] (exPast.take 3)
  have written :
      (pointsWritten exSetup (.initial [.panics .unreadable]) exPast).length < UInt64.size := by
    decide +kernel
  have reached : flushesReached exSetup [.panics .unreadable] exPast = 1 := by decide +kernel
  have calls : stop.callsFlush exSetup = true := by decide +kernel
  have failing : (after (exPast.take 2)).nextFlush ≠ .written := by decide +kernel
  have next : (after (exPast.take 3)).nextFlush = .written := by decide +kernel
  refine ⟨conserved.exact.2 written, ?_, ?_, failing, ?_, next, ?_, ?_⟩
  · rw [conserved.exactReached.2 (reached ▸ by decide), reached]
  · exact (grows _ (List.take_prefix 2 exPast)).2 written
  · exact (fails stop calls).1 failing
  · exact (succeeds .flush rfl).2 next
  · exact (refuses ⟨"", 0, 0⟩).2 rfl

end AdminPort
