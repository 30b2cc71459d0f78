import AdminPort.Proofs.Counters
import AdminPort.Proofs.ReplyLaw

/-!
# Requests are isolated from each other

Requests share one daemon and move its state, but hardly any of it shows in what
they are answered. Two commands look at the state at all:

* the statistics report it, as they are meant to;
* stopping the daemon ends as the next flush of the store does.

Every other request goes by the setup, its own data and its connection alone. So
the answer to a request that is not for the statistics, and what it adds to the
counters, is the same in any two states that agree on how the next flush ends,
and that only for a request that stops the daemon.

Results:
1. `course_congr`: a command takes the same course in two such states.
2. `response_congr`, `unclassified_congr`: so does a dispatch.
3. `requests_isolated`: what happened to a daemon before does not show.
-/

namespace AdminPort

/-! ## Definitions -/

/-- `Alike before outcome before' outcome'`: two dispatches, each from a state, give
the same response and move both counters by the same. -/
structure Alike (before : State) (outcome : Outcome) (before' : State) (outcome' : Outcome) :
    Prop where
  response : outcome.response = outcome'.response
  queries : outcome.state.traffic.queries - before.traffic.queries =
    outcome'.state.traffic.queries - before'.traffic.queries
  exceptions : outcome.state.traffic.exceptions - before.traffic.exceptions =
    outcome'.state.traffic.exceptions - before'.traffic.exceptions

/-- `SameFlush setup request s s'`: the states agree on how the next flush ends, if
the request is one that stops the daemon. -/
def SameFlush (setup : Setup) (request : Http.Request) (s s' : State) : Prop :=
  Meets setup request (.command .shutdown) → s.nextFlush = s'.nextFlush

/-! ## Two states -/

section

variable {setup : Setup} {s s' : State} {now now' : UInt64} {request : Http.Request}
  {conn : Handle}

/-- Of all commands only the statistics read more of the state than the ending of
the next flush, and no other one reads the clock. -/
theorem course_congr {c : Command} (met : Meets setup request (.command c))
    (other : ¬ Meets setup request (.command .stats)) (same : SameFlush setup request s s')
    (x : Exchange) : c.course setup s now x = c.course setup s' now' x := by
  cases c with
  | shutdown => rw [Command.course, Command.course, same met]
  | stats => exact absurd met other
  | version => rfl
  | script name actions => rfl

theorem response_congr (other : ¬ Meets setup request (.command .stats))
    (same : SameFlush setup request s s') (clock clock' : Clock) :
    (dispatch setup clock s request conn).response =
      (dispatch setup clock' s' request conn).response := by
  obtain ⟨e, met⟩ := exists_meets setup request
  cases e with
  | command c => rw [response_of_command met, response_of_command met, course_congr met other same]
  | _ =>
    -- a request that meets no command is answered without a look at the state
    rw [dispatch_of_meets met, dispatch_of_meets met]
    rfl

theorem unclassified_congr (other : ¬ Meets setup request (.command .stats))
    (same : SameFlush setup request s s') :
    Unclassified setup s now request conn ↔ Unclassified setup s' now' request conn := by
  refine exists_congr fun c => and_congr_right fun _ => and_congr_right fun met => ?_
  rw [course_congr met other same]

/-- A dispatch moves the queries by one, and the exceptions by one if it ends in an
unclassified failure. -/
theorem counters_moved (setup : Setup) (clock : Clock) (s : State) (request : Http.Request)
    (conn : Handle) :
    let after := (dispatch setup clock s request conn).state.traffic
    after.queries - s.traffic.queries = 1 ∧
      after.exceptions - s.traffic.exceptions =
        if Unclassified setup s clock.now request conn then 1 else 0 := by
  intro after
  have moved : after = _ := traffic_dispatch setup clock s request conn
  -- counters are words, and what one has grown by is exact even if it wraps
  have one (n : UInt64) : n + 1 - n = 1 := by rw [UInt64.add_comm, UInt64.add_sub_cancel]
  rw [moved]
  split
  · exact ⟨one _, one _⟩
  · exact ⟨one _, UInt64.sub_self _⟩

theorem alike_of_sameFlush (other : ¬ Meets setup request (.command .stats))
    (same : SameFlush setup request s s') (clock clock' : Clock) :
    Alike s (dispatch setup clock s request conn) s' (dispatch setup clock' s' request conn) := by
  obtain ⟨queries, exceptions⟩ := counters_moved setup clock s request conn
  obtain ⟨queries', exceptions'⟩ := counters_moved setup clock' s' request conn
  exact {
    response := response_congr other same clock clock'
    queries := queries.trans queries'.symm
    exceptions := by
      rw [exceptions, exceptions']
      exact if_congr (unclassified_congr other same) rfl rfl }

end

/-! ## Histories -/

/-- What happened to a daemon before does not show in the answer to a request that
is not for the statistics, nor in what that request adds to the counters; only a
request that stops the daemon goes by the ending of the next flush. In particular
no request alters the answer to a later one, however it ended. -/
theorem requests_isolated (setup : Setup) {request : Http.Request}
    (other : ¬ Meets setup request (.command .stats)) (conn : Handle) (clock clock' : Clock) :
    (∀ flushes flushes' past past',
      let s := (State.initial flushes).run setup past
      let s' := (State.initial flushes').run setup past'
      (Meets setup request (.command .shutdown) → s.nextFlush = s'.nextFlush) →
        Alike s (dispatch setup clock s request conn)
          s' (dispatch setup clock' s' request conn)) ∧
      ∀ flushes past earlierClock earlier earlierConn,
        let s := (State.initial flushes).run setup past
        let s' := (dispatch setup earlierClock s earlier earlierConn).state
        (Meets setup request (.command .shutdown) → s.nextFlush = s'.nextFlush) →
          (dispatch setup clock s request conn).response =
            (dispatch setup clock' s' request conn).response := by
  constructor
  · intro flushes flushes' past past' s s' same
    exact alike_of_sameFlush other same clock clock'
  · intro flushes past earlierClock earlier earlierConn s s' same
    exact response_congr other same clock clock'

/-- One daemon has been stopped once, and the other one has failed in three ways
besides being stopped in vain; the flush that is next panics in both. -/
theorem requests_isolated_exSteps :
    let stop : Step := .dispatch exClock (exGet "/diediedie") exConn
    let s := (State.initial [.written, .panics .unreadable]).run exSetup [stop]
    let s' := (State.initial exFlushes).run exSetup (exSteps.take 6)
    let fresh := State.initial exFlushes
    ¬ Meets exSetup (exGet "/diediedie") (.command .stats) ∧ s.nextFlush = s'.nextFlush ∧
      Alike s (dispatch exSetup exClock s (exGet "/diediedie") exConn)
        s' (dispatch exSetup exClock s' (exGet "/diediedie") exConn) ∧
      ¬ Meets exSetup (exGet "/version") (.command .stats) ∧
      (dispatch exSetup exClock fresh (exGet "/version") exConn).response =
        (dispatch exSetup exClock
          (dispatch exSetup exClock fresh (exGet "/late") exConn).state
          (exGet "/version") exConn).response := by
  intro stop s s' fresh
  have other : ¬ Meets exSetup (exGet "/diediedie") (.command .stats) := by decide +kernel
  have next : s.nextFlush = s'.nextFlush := by decide +kernel
  have other' : ¬ Meets exSetup (exGet "/version") (.command .stats) := by decide +kernel
  have quiet : ¬ Meets exSetup (exGet "/version") (.command .shutdown) := by decide +kernel
  refine ⟨other, next, ?_, other', ?_⟩
  · obtain ⟨alike, -⟩ := requests_isolated exSetup other exConn exClock exClock
    exact alike _ _ _ _ fun _ => next
  · obtain ⟨-, unaltered⟩ := requests_isolated exSetup other' exConn exClock exClock
    exact unaltered exFlushes [] exClock (exGet "/late") exConn fun met => absurd met quiet

end AdminPort
