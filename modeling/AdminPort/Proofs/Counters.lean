import AdminPort.Proofs.Course
import AdminPort.Proofs.Run

/-!
# What the counters count

Over any run of a daemon the two counters tell how many requests were dispatched
and how many of them ended in an unclassified failure. An unclassified failure
is told from the course of the command that the request meets (`Unclassified`):
the command panicked, or returned a fault that is not the client's, or came to
its end without a reply. Refusals, unknown routing keys and the client's own
faults are none, and neither is a command that replies with an error page of its
own accord.

Results:
1. `traffic_dispatch`: what a dispatch adds to the counters.
2. `queries_run`, `exceptions_run`: what a run adds to them.
3. `counters_run`: after every step of a run from the start, the counters are
   exact and exceptions never exceed queries.
-/

namespace AdminPort

/-! ## Definitions -/

/-- Whether a course ends in an unclassified failure. -/
def Course.isUnclassified (course : Course) : Bool :=
  match course.ending with
  | .completed => course.replies.isEmpty
  | .returned fault => !fault.isClientFault
  | .panicked _ => true

/-- `Unclassified setup state now request conn`: the request meets a command whose
course ends in an unclassified failure. -/
def Unclassified (setup : Setup) (state : State) (now : UInt64) (request : Http.Request)
    (conn : Handle) : Prop :=
  ∃ c ∈ setup.table.commands, Meets setup request (.command c) ∧
    (c.course setup state now { request, conn }).isUnclassified = true

instance (setup : Setup) (state : State) (now : UInt64) (request : Http.Request) (conn : Handle) :
    Decidable (Unclassified setup state now request conn) :=
  inferInstanceAs (Decidable (∃ c ∈ setup.table.commands, _))

/-- Whether a step that is taken in a state is a dispatch that ends in an
unclassified failure. -/
def Step.isUnclassified (setup : Setup) (s : State) : Step → Bool
  | dispatch clock request conn => decide (Unclassified setup s clock.now request conn)
  | _ => false

/-- `Classified setup state now request conn`: the request ends in one of the ways
that are no unclassified failure.

* `chunked`, `noKey`, `unknownKey`: no command runs.
* `rejected`: the command returns a fault of the client's.
* `replied`: the command comes to its end and has replied, whatever the reply. -/
inductive Classified (setup : Setup) (state : State) (now : UInt64) (request : Http.Request)
    (conn : Handle) : Prop
  | chunked : Meets setup request .chunked → Classified setup state now request conn
  | noKey {reason : String} : Meets setup request (.noKey reason) →
      Classified setup state now request conn
  | unknownKey : Meets setup request .unknownKey → Classified setup state now request conn
  | rejected {c : Command} {replies : List Reply} {reason : String} :
      Meets setup request (.command c) →
      c.course setup state now { request, conn } = ⟨replies, .returned (.badRequest reason)⟩ →
      Classified setup state now request conn
  | replied {c : Command} {replies : List Reply} :
      Meets setup request (.command c) →
      c.course setup state now { request, conn } = ⟨replies, .completed⟩ → replies ≠ [] →
      Classified setup state now request conn

/-! ## One dispatch -/

namespace CountersLemmas

/-- Whether a verdict is counted as an exception. -/
def isException : Verdict → Bool
  | .failed fault => !fault.isClientFault
  | _ => false

theorem traffic_settle (w : Work) (clock : Clock) (v : Verdict) :
    (w.settle clock v).state.traffic =
      if isException v then w.state.traffic.exception else w.state.traffic := by
  cases v with
  | failed fault =>
    by_cases client : fault.isClientFault = true
    · simp only [Work.settle, isException, client]
      rfl
    · simp only [Work.settle, isException, client]
      rfl
  | _ => rfl

theorem isException_verdict (name : String) (course : Course) :
    isException (course.verdict name) = course.isUnclassified := by
  obtain ⟨replies, ending⟩ := course
  cases ending with
  | completed =>
    cases replies <;> rfl
  | returned fault => rfl
  | panicked payload => cases payload <;> rfl

/-- No command touches the counters. -/
theorem traffic_run (setup : Setup) (now : UInt64) (w : Work) (c : Command) :
    (w.run setup now c).1.state.traffic = w.state.traffic := by
  by_cases stops : c = .shutdown
  · subst stops
    rw [Work.run]
    cases h : w.state.nextFlush.fault? with
    | some fault => rw [Work.shutDown_of_fault h]
    | none => rw [Work.shutDown_of_written h]
  · rw [Work.run_of_ne_shutdown setup now w stops]

end CountersLemmas

open CountersLemmas

section

variable {setup : Setup} {state : State} {now : UInt64} {request : Http.Request} {conn : Handle}

theorem unclassified_iff {c : Command} (met : Meets setup request (.command c)) :
    Unclassified setup state now request conn ↔
      (c.course setup state now { request, conn }).isUnclassified = true := by
  constructor
  · rintro ⟨d, -, met', h⟩
    cases met.eq_command met'
    exact h
  · exact fun h => ⟨c, (meets_command_iff.1 met).1, met, h⟩

theorem not_unclassified {e : Encounter} (met : Meets setup request e)
    (other : ∀ c, e ≠ .command c) : ¬ Unclassified setup state now request conn := by
  rintro ⟨c, -, met', -⟩
  exact other c (met.eq_command met')

theorem Classified.not_unclassified (h : Classified setup state now request conn) :
    ¬ Unclassified setup state now request conn := by
  cases h with
  | chunked met | noKey met | unknownKey met => exact AdminPort.not_unclassified met nofun
  | rejected met took =>
    simp [unclassified_iff met, took, Course.isUnclassified, Fault.isClientFault]
  | replied met took replied => simp [unclassified_iff met, took, Course.isUnclassified, replied]

/-- A dispatch counts one query, and one exception before it if it ends in an
unclassified failure. -/
theorem traffic_dispatch (setup : Setup) (clock : Clock) (state : State) (request : Http.Request)
    (conn : Handle) :
    (dispatch setup clock state request conn).state.traffic =
      (if Unclassified setup state clock.now request conn then state.traffic.exception
        else state.traffic).query clock.elapsed := by
  obtain ⟨e, met⟩ := exists_meets setup request
  cases e with
  | command c =>
    rw [dispatch_of_command met, Work.finish, traffic_settle, traffic_run, isException_verdict]
    simp only [unclassified_iff met]
  | _ =>
    rw [dispatch_of_meets met, if_neg (not_unclassified met nofun)]
    rfl

end

/-! ## Runs -/

section

variable (setup : Setup) (s : State)

theorem traffic_step (step : Step) (other : step.isDispatch = false) :
    (s.step setup step).traffic = s.traffic := by
  cases step with
  | dispatch => cases other
  | addPoint point =>
    rw [State.step]
    split <;> rfl
  | flush =>
    rw [State.step, State.flush]
    cases s.nextFlush.fault? <;> rfl
  | _ => rfl

theorem queries_step (step : Step) :
    (s.step setup step).traffic.queries =
      s.traffic.queries + if step.isDispatch then 1 else 0 := by
  cases step with
  | dispatch clock request conn =>
    rw [State.step, traffic_dispatch]
    split <;> rfl
  | _ => rw [traffic_step _ _ _ rfl]; simp [Step.isDispatch]

theorem exceptions_step (step : Step) :
    (s.step setup step).traffic.exceptions =
      s.traffic.exceptions + if step.isUnclassified setup s then 1 else 0 := by
  cases step with
  | dispatch clock request conn =>
    rw [State.step, traffic_dispatch]
    simp only [Step.isUnclassified, decide_eq_true_eq, Traffic.exceptions_query]
    split <;> simp [Traffic.exception]
  | _ => rw [traffic_step _ _ _ rfl]; simp [Step.isUnclassified]

/-- A run adds the number of its dispatches to the queries. -/
theorem queries_run (steps : List Step) :
    (s.run setup steps).traffic.queries =
      s.traffic.queries + UInt64.ofNat (steps.countP Step.isDispatch) := by
  rw [State.counter_run (·.traffic.queries) (·.2.isDispatch) (queries_step setup)]
  conv_rhs => rw [← State.map_snd_trace setup s steps, List.countP_map]
  rfl

/-- A run adds the number of its unclassified failures to the exceptions. -/
theorem exceptions_run (steps : List Step) :
    (s.run setup steps).traffic.exceptions =
      s.traffic.exceptions +
        UInt64.ofNat ((s.trace setup steps).countP
          fun taken => taken.2.isUnclassified setup taken.1) :=
  State.counter_run (·.traffic.exceptions) (fun taken => taken.2.isUnclassified setup taken.1)
    (exceptions_step setup) s steps

/-- Only dispatches end in unclassified failures. -/
theorem unclassified_le_dispatches (steps : List Step) :
    ((s.trace setup steps).countP fun taken => taken.2.isUnclassified setup taken.1) ≤
      steps.countP Step.isDispatch := by
  conv_rhs => rw [← State.map_snd_trace setup s steps, List.countP_map]
  refine List.countP_mono_left fun ⟨s, step⟩ _ h => ?_
  cases step with
  | dispatch => rfl
  | _ => cases h

end

/-- After every step of a run from the start, the queries are the dispatches so
far and the exceptions are the unclassified failures among them, so exceptions
never exceed queries. Nothing else moves the counters: no other step moves
either, and no dispatch without an unclassified failure moves the exceptions. -/
theorem counters_run (setup : Setup) (flushes : List FlushOutcome) (steps : List Step)
    (few : steps.length < UInt64.size) :
    (∀ past, past <+: steps →
      let counters := ((State.initial flushes).run setup past).traffic
      counters.queries.toNat = past.countP Step.isDispatch ∧
        counters.exceptions.toNat =
          ((State.initial flushes).trace setup past).countP
            (fun taken => taken.2.isUnclassified setup taken.1) ∧
        counters.exceptions ≤ counters.queries) ∧
      (∀ s clock request conn, Classified setup s clock.now request conn →
        (dispatch setup clock s request conn).state.traffic.exceptions = s.traffic.exceptions) ∧
      ∀ s step, step.isDispatch = false →
        (State.step setup s step).traffic = s.traffic := by
  refine ⟨fun past begun => ?_, fun s clock request conn h => ?_, traffic_step setup⟩
  · -- nothing is counted more often than the run has steps, so no counter wraps
    have bound : past.countP Step.isDispatch < UInt64.size :=
      Nat.lt_of_le_of_lt (Nat.le_trans List.countP_le_length begun.length_le) few
    have queries : ((State.initial flushes).run setup past).traffic.queries.toNat =
        past.countP Step.isDispatch := by
      rw [queries_run]
      simpa [State.initial, Traffic.empty] using UInt64.toNat_ofNat_of_lt' bound
    have fewer := unclassified_le_dispatches setup (State.initial flushes) past
    have exceptions : ((State.initial flushes).run setup past).traffic.exceptions.toNat =
        ((State.initial flushes).trace setup past).countP
          (fun taken => taken.2.isUnclassified setup taken.1) := by
      rw [exceptions_run]
      simpa [State.initial, Traffic.empty] using
        UInt64.toNat_ofNat_of_lt' (Nat.lt_of_le_of_lt fewer bound)
    refine ⟨queries, exceptions, ?_⟩
    rw [UInt64.le_iff_toNat_le, queries, exceptions]
    exact fewer
  · rw [traffic_dispatch, if_neg h.not_unclassified]
    rfl

/-- Eight steps, six of them requests: the two scripts and the statistics fail, a
key is unknown, the first flush is put down to the client and the second panics. -/
def exSteps : List Step :=
  [.connect none, .dispatch exClock (exGet "/late") exConn,
    .dispatch exClock (exGet "/mute") exConn, .dispatch exClock (exGet "/stats") exConn,
    .dispatch exClock (exGet "/unknown") exConn, .dispatch exClock (exGet "/diediedie") exConn,
    .disconnect exConn, .dispatch exClock (exGet "/diediedie") exConn]

/-- How the two flushes of these steps end. -/
def exFlushes : List FlushOutcome := [.fails (.badRequest "disk full"), .panics .unreadable]

theorem counters_run_exSteps :
    exSteps.length < UInt64.size ∧
      let counters := ((State.initial exFlushes).run exSetup exSteps).traffic
      counters.queries.toNat = 6 ∧ counters.exceptions.toNat = 4 ∧
        counters.exceptions ≤ counters.queries := by
  have few : exSteps.length < UInt64.size := by decide
  obtain ⟨counted, -, -⟩ := counters_run exSetup exFlushes exSteps few
  obtain ⟨queries, exceptions, le⟩ := counted exSteps List.prefix_rfl
  refine ⟨few, queries.trans (by decide), exceptions.trans ?_, le⟩
  decide +kernel

end AdminPort
