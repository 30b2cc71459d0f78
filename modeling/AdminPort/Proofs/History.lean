import AdminPort.Proofs.Attendance
import AdminPort.Proofs.Counters
import AdminPort.Proofs.Lines
import AdminPort.Proofs.Percentile
import AdminPort.Proofs.Stopping
import Mathlib.Data.List.DropRight

/-!
# What the statistics tell

The statistics are the history of the daemon in numbers. A `Tally` takes these
numbers from the steps that were taken: what was opened and what of it is still
open, the requests and their unclassified failures, how long the requests took,
and the points before and after the last flush that did not fail. A report is
the text that a tally calls for, with whatever the text protocol adds to it.

Results:
1. `registry_history`, `latency_run`, `store_history`: each component keeps the
   numbers of the history.
2. `statsBody_history`: the statistics are the report of the tally.
3. `stats_history`: so every request for the statistics is answered with it.
-/

namespace AdminPort

/-! ## Definitions -/

/-- The call on the registry that a step makes, if it makes one. Stopping the
daemon closes all connections, whether the flush behind it fails or not. -/
def Step.registryOp? (setup : Setup) : Step → Option Registry.Op
  | dispatch _ request _ =>
    if Meets setup request (.command .shutdown) then some .closeAll else none
  | connect peer => some (.connect peer)
  | disconnect conn => some (.drop conn)
  | addPoint _ | flush => none

/-- How long the request of a step took, if it is one. -/
def Step.elapsed? : Step → Option Duration
  | dispatch clock _ _ => some clock.elapsed
  | _ => none

/-- The point that a step brings, if it is taken. -/
def Step.point? : Step → Option DataPoint
  | addPoint point => if point.metric.isEmpty then none else some point
  | _ => none

/-- Whether a step that is taken in a state flushes the store: on its own or as a
part of stopping the daemon, and without failing. -/
def Step.flushes (setup : Setup) (s : State) : Step → Bool
  | dispatch _ request _ =>
    decide (Meets setup request (.command .shutdown)) && s.nextFlush.fault?.isNone
  | flush => s.nextFlush.fault?.isNone
  | _ => false

/-- The numbers of a history. -/
structure Tally where
  /-- Connections that are open. -/
  connections : Nat
  /-- Connections that were opened. -/
  established : Nat
  /-- Requests that were dispatched. -/
  queries : Nat
  /-- Unclassified failures among them. -/
  exceptions : Nat
  /-- How long each of them took. -/
  latencies : List Duration
  /-- Points that came after the last flush. -/
  buffered : Nat
  /-- Points that came before it. -/
  flushed : Nat
  /-- Flushes that did not fail. -/
  flushes : Nat
deriving DecidableEq, Repr

/-- The numbers of the steps that were taken from a state on. -/
def tally (setup : Setup) (s : State) (steps : List Step) : Tally :=
  let calls := steps.filterMap (Step.registryOp? setup)
  let trace := s.trace setup steps
  let sinceFlush := trace.rtakeWhile fun taken => !taken.2.flushes setup taken.1
  let untilFlush := trace.rdropWhile fun taken => !taken.2.flushes setup taken.1
  { connections := (Registry.standing 0 false calls).length
    established := Registry.opens calls
    queries := steps.countP Step.isDispatch
    exceptions := trace.countP fun taken => taken.2.isUnclassified setup taken.1
    latencies := steps.filterMap Step.elapsed?
    buffered := (sinceFlush.filterMap (·.2.point?)).length
    flushed := (untilFlush.filterMap (·.2.point?)).length
    flushes := trace.countP fun taken => taken.2.flushes setup taken.1 }

/-- The points of a history up to its last flush that did not fail. -/
def pointsWritten (setup : Setup) (s : State) (steps : List Step) : List DataPoint :=
  ((s.trace setup steps).rdropWhile fun taken => !taken.2.flushes setup taken.1).filterMap
    (·.2.point?)

/-- The points of a history since its last flush that did not fail. -/
def pointsWaiting (setup : Setup) (s : State) (steps : List Step) : List DataPoint :=
  ((s.trace setup steps).rtakeWhile fun taken => !taken.2.flushes setup taken.1).filterMap
    (·.2.point?)

/-- The text of the statistics that a tally calls for at a time. The text protocol
finds the host set as a tag, and the tags that it leaves in force are on all the
lines behind its own. -/
def Setup.report (setup : Setup) (now : UInt64) (t : Tally) : String :=
  let host : Stats.Tag := ("host", setup.statsHost)
  let script := setup.textProtocol.filterMap (·.call?)
  let tags := Stats.inForce (host :: script.filterMap (·.tag? setup.statsHost))
  let line (name : String) (value : Nat) (tags : List Stats.Tag) : String :=
    Stats.lineText (setup.statsBase ++ "." ++ name) now.toNat value tags
  let latency (percent : Nat) : Nat := Latency.percentileMillisOf t.latencies percent
  line "connectionmgr.connections" t.connections [host] ++
    line "connectionmgr.established" t.established [host] ++
    Stats.written setup.statsBase setup.statsHost now [host] script ++
    line "http.queries" t.queries tags ++
    line "http.exceptions" t.exceptions tags ++
    line "http.latency_50pct" (latency 50) (("type", "all") :: tags) ++
    line "http.latency_75pct" (latency 75) (("type", "all") :: tags) ++
    line "http.latency_90pct" (latency 90) (("type", "all") :: tags) ++
    line "http.latency_95pct" (latency 95) (("type", "all") :: tags) ++
    line "storage.points_buffered" t.buffered tags ++
    line "storage.points_flushed" t.flushed tags ++
    line "storage.flushes" t.flushes tags

/-! ## Connections -/

attribute [ext] Registry PointStore

section

variable (setup : Setup) (s : State)

theorem registry_step (step : Step) :
    (s.step setup step).registry = (step.registryOp? setup).elim s.registry s.registry.step := by
  cases step with
  | dispatch clock request conn =>
    rw [State.step, Step.registryOp?]
    split
    · next met =>
      cases h : s.nextFlush.fault? with
      | none => rw [dispatch_of_written met h]; rfl
      | some fault => rw [dispatch_of_failedFlush met h]; rfl
    · next other =>
      have untouched : Untouched s (dispatch setup clock s request conn) :=
        untouched_of_not_meets other
      exact Registry.ext untouched.connections untouched.nextId untouched.established
        untouched.closing
  | addPoint point =>
    rw [State.step]
    split <;> rfl
  | flush =>
    rw [State.step, State.flush]
    cases s.nextFlush.fault? <;> rfl
  | _ => rfl

/-- The registry after a run is the registry after the calls that the steps make on it. -/
theorem registry_history (steps : List Step) :
    (s.run setup steps).registry = s.registry.after (steps.filterMap (Step.registryOp? setup)) := by
  induction steps generalizing s with
  | nil => rfl
  | cons step rest ih =>
    rw [State.run_cons, ih, registry_step, List.filterMap_cons]
    cases step.registryOp? setup <;> rfl

/-! ## Requests -/

theorem latency_step (step : Step) :
    (s.step setup step).traffic.latency =
      Latency.observeAll s.traffic.latency step.elapsed?.toList := by
  cases step with
  | dispatch clock request conn =>
    rw [State.step, traffic_dispatch]
    split <;> rfl
  | _ => rw [traffic_step _ _ _ rfl]; rfl

theorem latency_run (steps : List Step) :
    (s.run setup steps).traffic.latency =
      Latency.observeAll s.traffic.latency (steps.filterMap Step.elapsed?) := by
  induction steps generalizing s with
  | nil => rfl
  | cons step rest ih =>
    rw [State.run_cons, ih, latency_step, List.filterMap_cons]
    cases step.elapsed? <;> rfl

/-! ## Points -/

theorem store_step (step : Step) :
    (s.step setup step).store =
      if step.flushes setup s then s.store.flush.1
      else { s.store with buffered := s.store.buffered ++ step.point?.toArray } := by
  cases step with
  | dispatch clock request conn =>
    rw [State.step, Step.flushes]
    by_cases met : Meets setup request (.command .shutdown)
    · cases h : s.nextFlush.fault? with
      | none => simp [dispatch_of_written met h, met]
      | some fault => simp [dispatch_of_failedFlush met h, Step.point?]
    · have untouched : Untouched s (dispatch setup clock s request conn) :=
        untouched_of_not_meets met
      simpa [met, Step.point?] using
        PointStore.ext untouched.buffered untouched.flushed untouched.flushes
  | addPoint point =>
    by_cases empty : point.metric.isEmpty <;>
      simp [State.step, PointStore.add, Step.flushes, Step.point?, empty]
  | flush =>
    rw [State.step, Step.flushes]
    cases h : s.nextFlush.fault? with
    | none => simp [State.flush_of_written h]
    | some fault => simp [State.flush_of_fault h, Step.point?]
  | _ => simp [State.step, Step.flushes, Step.point?]

/-- Each point that was taken is on one side of the last flush. -/
theorem pointsWritten_append_pointsWaiting (steps : List Step) :
    pointsWritten setup s steps ++ pointsWaiting setup s steps = steps.filterMap Step.point? := by
  rw [pointsWritten, pointsWaiting, ← List.filterMap_append, List.rdropWhile_append_rtakeWhile]
  conv_rhs => rw [← State.map_snd_trace setup s steps, List.filterMap_map]
  rfl

/-- One more step either writes out the points that wait or adds to them. -/
theorem points_concat (steps : List Step) (step : Step) :
    pointsWritten setup s (steps ++ [step]) =
        (if step.flushes setup (s.run setup steps) then steps.filterMap Step.point?
          else pointsWritten setup s steps) ∧
      pointsWaiting setup s (steps ++ [step]) =
        if step.flushes setup (s.run setup steps) then []
          else pointsWaiting setup s steps ++ step.point?.toList := by
  have whole := pointsWritten_append_pointsWaiting setup s (steps ++ [step])
  have waiting : pointsWaiting setup s (steps ++ [step]) =
      if step.flushes setup (s.run setup steps) then []
        else pointsWaiting setup s steps ++ step.point?.toList := by
    rw [pointsWaiting, State.trace_concat, List.rtakeWhile_concat]
    cases step.flushes setup (s.run setup steps) with
    | true => rfl
    | false => cases point : step.point? <;> simp [pointsWaiting, point]
  refine ⟨?_, waiting⟩
  cases h : step.flushes setup (s.run setup steps) with
  | true =>
    -- a step that flushes brings no point of its own, so all points are written
    have none : step.point? = none := by
      cases step with
      | addPoint => cases h
      | _ => rfl
    simpa [waiting, h, none] using whole
  | false =>
    rw [pointsWritten, State.trace_concat, List.rdropWhile_concat]
    simp [pointsWritten, h]

end

/-- The points since the last flush are in the buffer in order, and those before it
are counted. -/
theorem points_history (setup : Setup) (flushes : List FlushOutcome) (steps : List Step) :
    let store := ((State.initial flushes).run setup steps).store
    store.buffered.toList = pointsWaiting setup (.initial flushes) steps ∧
      store.flushed = UInt64.ofNat (pointsWritten setup (.initial flushes) steps).length := by
  intro store
  induction steps using List.reverseRecOn with
  | nil => exact ⟨rfl, rfl⟩
  | append_singleton past step ih =>
    obtain ⟨buffered, flushed⟩ := ih
    obtain ⟨written, waiting⟩ := points_concat setup (.initial flushes) past step
    have length := congrArg List.length
      (pointsWritten_append_pointsWaiting setup (.initial flushes) past)
    rw [List.length_append] at length
    simp only [store, State.run_concat, store_step, written, waiting]
    split
    · rw [← length, UInt64.ofNat_add, ← flushed, ← buffered]
      exact ⟨rfl, rfl⟩
    · exact ⟨by simp [buffered], flushed⟩

/-- The flushes of the store are the steps that flush it. -/
theorem flushes_history (setup : Setup) (flushes : List FlushOutcome) (steps : List Step) :
    ((State.initial flushes).run setup steps).store.flushes =
      UInt64.ofNat (tally setup (.initial flushes) steps).flushes := by
  rw [State.counter_run (·.store.flushes) (fun taken => taken.2.flushes setup taken.1)]
  · simp [State.initial, PointStore.empty, tally]
  · intro s step
    rw [store_step]
    split <;> simp [PointStore.flush]

/-- The store keeps the numbers of the history. -/
theorem store_history (setup : Setup) (flushes : List FlushOutcome) (steps : List Step) :
    let store := ((State.initial flushes).run setup steps).store
    let t := tally setup (.initial flushes) steps
    store.size = t.buffered ∧ store.flushed = UInt64.ofNat t.flushed ∧
      store.flushes = UInt64.ofNat t.flushes := by
  obtain ⟨buffered, flushed⟩ := points_history setup flushes steps
  refine ⟨?_, flushed, flushes_history setup flushes steps⟩
  exact congrArg List.length buffered

/-! ## The report -/

section

variable (setup : Setup) (flushes : List FlushOutcome) {steps : List Step}

theorem registry_stats_history (steps : List Step) :
    ((State.initial flushes).run setup steps).registry.stats =
      [.record "connectionmgr.connections"
        (UInt64.ofNat (tally setup (.initial flushes) steps).connections),
       .record "connectionmgr.established"
        (UInt64.ofNat (tally setup (.initial flushes) steps).established)] := by
  have connections := Registry.connections_after .empty (steps.filterMap (Step.registryOp? setup))
  have established := Registry.established_after .empty (steps.filterMap (Step.registryOp? setup))
  rw [registry_history, Registry.stats, Registry.size, State.initial, connections, established]
  simp [Registry.empty, tally]

theorem traffic_stats_history (few : 100 * steps.length < UInt64.size) :
    ((State.initial flushes).run setup steps).traffic.stats =
      let t := tally setup (.initial flushes) steps
      let latency (percent : Nat) := UInt64.ofNat (Latency.percentileMillisOf t.latencies percent)
      [.record "http.queries" (UInt64.ofNat t.queries),
       .record "http.exceptions" (UInt64.ofNat t.exceptions),
       .recordTagged "http.latency_50pct" (latency 50) ("type", "all"),
       .recordTagged "http.latency_75pct" (latency 75) ("type", "all"),
       .recordTagged "http.latency_90pct" (latency 90) ("type", "all"),
       .recordTagged "http.latency_95pct" (latency 95) ("type", "all")] := by
  have queries := queries_run setup (.initial flushes) steps
  have exceptions := exceptions_run setup (.initial flushes) steps
  have fewer : 100 * (steps.filterMap Step.elapsed?).length < UInt64.size :=
    Nat.lt_of_le_of_lt (Nat.mul_le_mul_left 100 (List.length_filterMap_le _ _)) few
  have percentile (percent : UInt64) :
      ((State.initial flushes).run setup steps).traffic.latency.percentileMillis percent =
        UInt64.ofNat
          (Latency.percentileMillisOf (steps.filterMap Step.elapsed?) percent.toNat) := by
    rw [latency_run]
    exact Latency.percentileMillis_observeAll _ fewer percent
  simp only [Traffic.stats, queries, exceptions, percentile, Traffic.reportedPercentiles,
    List.map_cons, List.map_nil, tally]
  simp only [State.initial, Traffic.empty, UInt64.zero_add]
  rfl

theorem store_stats_history (steps : List Step) :
    ((State.initial flushes).run setup steps).store.stats =
      let t := tally setup (.initial flushes) steps
      [.record "storage.points_buffered" (UInt64.ofNat t.buffered),
       .record "storage.points_flushed" (UInt64.ofNat t.flushed),
       .record "storage.flushes" (UInt64.ofNat t.flushes)] := by
  obtain ⟨buffered, flushed, count⟩ := store_history setup flushes steps
  rw [PointStore.stats, buffered, flushed, count]

/-- No number of a history exceeds the number of its steps. -/
theorem tally_le (steps : List Step) :
    let t := tally setup (.initial flushes) steps
    t.connections ≤ steps.length ∧ t.established ≤ steps.length ∧ t.queries ≤ steps.length ∧
      t.exceptions ≤ steps.length ∧ t.buffered ≤ steps.length ∧
      t.flushed ≤ steps.length ∧ t.flushes ≤ steps.length := by
  have length : ((State.initial flushes).trace setup steps).length = steps.length := by
    conv_rhs => rw [← State.map_snd_trace setup (.initial flushes) steps, List.length_map]
  have within {n : Nat} (h : n ≤ ((State.initial flushes).trace setup steps).length) :
      n ≤ steps.length := length ▸ h
  have opened : Registry.opens (steps.filterMap (Step.registryOp? setup)) ≤ steps.length :=
    Nat.le_trans (List.length_filterMap_le _ _) (List.length_filterMap_le _ _)
  refine ⟨Nat.le_trans (Registry.length_standing_le _ _ _) opened, opened, List.countP_le_length,
    within List.countP_le_length, within ?_, within ?_, within List.countP_le_length⟩
  · exact Nat.le_trans (List.length_filterMap_le _ _) (List.rtakeWhile_suffix _ _).length_le
  · exact Nat.le_trans (List.length_filterMap_le _ _) (List.rdropWhile_prefix _ _).length_le

/-- The statistics are the report of the tally. -/
theorem statsBody_history (few : 100 * steps.length < UInt64.size) (now : UInt64) :
    setup.statsBody ((State.initial flushes).run setup steps) now =
      setup.report now (tally setup (.initial flushes) steps) := by
  have words := tally_le setup flushes steps
  rw [Setup.statsBody_eq_written, Setup.statsCalls, registry_stats_history,
    traffic_stats_history setup flushes few, store_stats_history, Setup.report]
  generalize tally setup (.initial flushes) steps = t at words
  obtain ⟨connections, established, queries, exceptions, buffered, flushed, count⟩ := words
  have word {n : Nat} (h : n ≤ steps.length) : n < UInt64.size := by omega
  have latency := Latency.percentileMillisOf_lt t.latencies
  -- the host tag is the first setting, and no component but the script makes another
  simp only [Stats.written_append, Stats.written_hostTag, Stats.written_nil,
    Stats.written_record _ _ _ _ _ (word connections),
    Stats.written_record _ _ _ _ _ (word established),
    Stats.written_record _ _ _ _ _ (word queries),
    Stats.written_record _ _ _ _ _ (word exceptions),
    Stats.written_record _ _ _ _ _ (word buffered),
    Stats.written_record _ _ _ _ _ (word flushed),
    Stats.written_record _ _ _ _ _ (word count),
    Stats.written_recordTagged _ _ _ _ _ (latency _)]
  simp only [Stats.Call.tag?_hostTag, Stats.Call.tag?_record, Stats.Call.tag?_recordTagged,
    Stats.inForce_singleton, List.filterMap_cons, List.filterMap_nil, List.filterMap_append,
    List.nil_append, List.append_nil, List.cons_append, String.append_empty, String.append_assoc]

end

/-- Every request for the statistics is answered with the report of the history so
far, unless the text protocol panics. -/
theorem stats_history (setup : Setup) (flushes : List FlushOutcome) (steps : List Step)
    (few : 100 * steps.length < UInt64.size)
    (quiet : ∀ payload, .panic payload ∉ setup.textProtocol) (clock : Clock)
    {request : Http.Request} (conn : Handle) (met : Meets setup request (.command .stats)) :
    (dispatch setup clock ((State.initial flushes).run setup steps) request conn).response =
      { status := 200
        contentType := some "text/plain; charset=UTF-8"
        body := setup.report clock.now (tally setup (.initial flushes) steps) } := by
  rw [response_of_stats met quiet, statsBody_history setup flushes few]

/-- The example daemon with a text protocol that sets a tag and then takes the place
of the host. -/
def exTelling : Setup :=
  { exSetup with
    textProtocol :=
      [.call (.record "rpc.calls" 7), .call (.tag ("kind", "telnet")),
       .call (.record "rpc.errors" 0), .call (.tag ("host", "other")), .call (.emit "# done\n")] }

/-- Two connections, one of them closed by a stop whose flush panics; a flush that
succeeds; a failing script; and three points, of which one is refused. -/
def exPast : List Step :=
  [.connect none, .addPoint ⟨"a", 0, 0⟩, .dispatch exClock (exGet "/diediedie") exConn, .flush,
    .dispatch exClock (exGet "/mute") exConn, .addPoint ⟨"", 0, 0⟩, .connect none,
    .addPoint ⟨"b", 0, 0⟩]

theorem stats_history_exPast :
    100 * exPast.length < UInt64.size ∧
      (∀ payload, .panic payload ∉ exTelling.textProtocol) ∧
      Meets exTelling (exGet "/stats") (.command .stats) ∧
      (dispatch exTelling exClock ((State.initial [.panics .unreadable]).run exTelling exPast)
          (exGet "/stats") exConn).response.body =
        "tsd.connectionmgr.connections 1700000001 1 host=h\n" ++
        "tsd.connectionmgr.established 1700000001 2 host=h\n" ++
        "tsd.rpc.calls 1700000001 7 host=h\n" ++
        "tsd.rpc.errors 1700000001 0 host=h kind=telnet\n" ++
        "# done\n" ++
        "tsd.http.queries 1700000001 2 host=other kind=telnet\n" ++
        "tsd.http.exceptions 1700000001 2 host=other kind=telnet\n" ++
        "tsd.http.latency_50pct 1700000001 5 type=all host=other kind=telnet\n" ++
        "tsd.http.latency_75pct 1700000001 5 type=all host=other kind=telnet\n" ++
        "tsd.http.latency_90pct 1700000001 5 type=all host=other kind=telnet\n" ++
        "tsd.http.latency_95pct 1700000001 5 type=all host=other kind=telnet\n" ++
        "tsd.storage.points_buffered 1700000001 1 host=other kind=telnet\n" ++
        "tsd.storage.points_flushed 1700000001 1 host=other kind=telnet\n" ++
        "tsd.storage.flushes 1700000001 1 host=other kind=telnet\n" := by
  have few : 100 * exPast.length < UInt64.size := by decide
  have quiet : ∀ payload, .panic payload ∉ exTelling.textProtocol := by simp [exTelling]
  have met : Meets exTelling (exGet "/stats") (.command .stats) := by decide +kernel
  refine ⟨few, quiet, met, ?_⟩
  rw [stats_history exTelling [.panics .unreadable] exPast few quiet exClock exConn met]
  have numbers : tally exTelling (.initial [.panics .unreadable]) exPast =
      ⟨1, 2, 2, 2, [exClock.elapsed, exClock.elapsed], 1, 1, 1⟩ := by decide +kernel
  have order : Latency.inOrder [exClock.elapsed, exClock.elapsed] = [2000, 2000] := by
    rw [Latency.inOrder, List.mergeSort_of_pairwise (by decide)]
    decide
  simp only [numbers, Setup.report, Latency.percentileMillisOf, Latency.percentileOf, order]
  decide +kernel

end AdminPort
