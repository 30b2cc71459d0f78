import AdminPort.Proofs.Account
import AdminPort.Proofs.Conservation

/-!
# What a dispatch reads of a request

A dispatch reads two things of its request: the target, and whether the request is
chunked. The method, the other headers, the body and the connection show nowhere
but in the journal, where entries name the connection; a script can bring them to
light only by an echo. Besides, the last entry of a dispatch tells the time that it
took, which is read off the clock.

So two requests that agree on these two things have the same outcome from the same
state, whatever else they hold and wherever they come from.

Results:
1. `meets_congr`: such requests meet the same.
2. `Action.course_of_uri`, `Command.course_of_uri`: commands that do not echo take the
   same course for both.
3. `only_target_matters`: the outcome is the same.
-/

namespace AdminPort

/-! ## Definitions -/

/-- No script of the table echoes its request. -/
def Setup.NoEcho (setup : Setup) : Prop :=
  ∀ name actions, .script name actions ∈ setup.table.commands → .echo ∉ actions

/-- What an entry tells besides the fields of some names: its level, its message and
its other fields. -/
def Journal.Entry.besides (hidden : List String) (e : Journal.Entry) :
    Journal.Level × String × List (String × Text.Json.Value) :=
  (e.level, e.message, e.fields.filter (·.1 ∉ hidden))

/-- `Indistinct outcome outcome'`: two outcomes are the same but for the latency that
was measured and the connection and the time that the journal names. -/
structure Indistinct (outcome outcome' : Outcome) : Prop where
  response : outcome.response = outcome'.response
  queries : outcome.state.traffic.queries = outcome'.state.traffic.queries
  exceptions : outcome.state.traffic.exceptions = outcome'.state.traffic.exceptions
  store : outcome.state.store = outcome'.state.store
  registry : outcome.state.registry = outcome'.state.registry
  flushes : outcome.state.flushes = outcome'.state.flushes
  tasks : outcome.tasks = outcome'.tasks
  journal : outcome.journal.map (·.besides ["conn", "elapsed_ms"]) =
    outcome'.journal.map (·.besides ["conn", "elapsed_ms"])

attribute [ext] State

/-! ## What a request meets -/

section

variable {setup : Setup} {a b : Http.Request} {e : Encounter}

theorem Meets.of_uri (uri : a.uri = b.uri) (chunked : a.isChunked = b.isChunked)
    (h : Meets setup a e) : Meets setup b e := by
  cases h with
  | chunked guarded => exact .chunked (chunked ▸ guarded)
  | empty plain empty => exact .empty (chunked ▸ plain) (uri ▸ empty)
  | noSlash plain nonempty noSlash =>
    rw [uri] at *
    exact .noSlash (chunked ▸ plain) nonempty noSlash
  | unknownKey plain key unknown => exact .unknownKey (chunked ▸ plain) (uri ▸ key) unknown
  | command plain key mem => exact .command (chunked ▸ plain) (uri ▸ key) mem

theorem meets_congr (uri : a.uri = b.uri) (chunked : a.isChunked = b.isChunked) :
    Meets setup a e ↔ Meets setup b e :=
  ⟨.of_uri uri chunked, .of_uri uri.symm chunked.symm⟩

end

/-! ## Courses -/

section

variable {x y : Exchange} (uri : x.uri = y.uri)

include uri

/-- Of all actions only an echo replies with more of the request than its target. -/
theorem Action.reply?_of_uri {action : Action} (quiet : action ≠ .echo) :
    action.reply? x = action.reply? y := by
  cases action with
  | echo => exact absurd rfl quiet
  | notFound => simp only [reply?, uri]
  | _ => rfl

theorem Action.course_of_uri {actions : List Action} (quiet : .echo ∉ actions) :
    course x actions = course y actions := by
  simp only [course, Course.mk.injEq, and_true]
  refine List.filterMap_congr fun action mem => reply?_of_uri uri ?_
  rintro rfl
  exact quiet (List.takeWhile_subset _ mem)

theorem Command.course_of_uri {setup : Setup} (quiet : setup.NoEcho) {c : Command}
    (mem : c ∈ setup.table.commands) (state : State) (now : UInt64) :
    c.course setup state now x = c.course setup state now y := by
  cases c with
  | version => simp only [course, uri]
  | script name actions => exact Action.course_of_uri uri (quiet name actions mem)
  | _ => rfl

end

/-! ## Outcomes -/

section

variable {setup : Setup} {state : State} {now : UInt64} {a b : Http.Request}
  {conn : Handle} (conn' : Handle)
  (quiet : setup.NoEcho) (uri : a.uri = b.uri) (chunked : a.isChunked = b.isChunked)

include quiet uri

theorem course_eq {c : Command} (met : Meets setup a (.command c)) :
    c.course setup state now { request := a, conn } =
      c.course setup state now { request := b, conn := conn' } :=
  have uri : Exchange.uri { request := a, conn } = Exchange.uri { request := b, conn := conn' } :=
    uri
  Command.course_of_uri uri quiet (meets_command_iff.1 met).1 state now

theorem verdict_of_uri {e : Encounter} (met : Meets setup a e) :
    e.verdict setup state now { request := a, conn } =
      e.verdict setup state now { request := b, conn := conn' } := by
  cases e with
  | command c => exact congrArg (Course.verdict c.name) (course_eq conn' quiet uri met)
  | _ => rfl

include chunked

theorem unclassified_of_uri :
    Unclassified setup state now a conn ↔ Unclassified setup state now b conn' := by
  refine exists_congr fun c => and_congr_right fun _ => ?_
  rw [← meets_congr uri chunked]
  refine and_congr_right fun met => ?_
  rw [course_eq conn' quiet uri met]

end

section

open Journal

variable {hidden : List String} (conn : "conn" ∈ hidden) {x y : Exchange} (uri : x.uri = y.uri)

include conn uri

/-- The notes of an encounter name the target and the connection of a request, and
nothing else of it. -/
theorem besides_encounter_notes (e : Encounter) (state : State) :
    (e.notes state x).map (·.besides hidden) = (e.notes state y).map (·.besides hidden) := by
  cases e with
  | chunked =>
    simp [Encounter.notes, Entry.besides, Entry.level, Entry.message, Entry.fields, uri, conn]
  | command c =>
    cases c with
    | shutdown =>
      simp only [Encounter.notes, List.map_append]
      simp [Entry.besides, Entry.level, Entry.message, Entry.fields, conn]
    | _ => rfl
  | _ => rfl

/-- So does the entry that tells the verdict, and in the end it names the time. -/
theorem besides_verdict_notes {clock clock' : Clock}
    (time : clock.reported = clock'.reported ∨ "elapsed_ms" ∈ hidden) (v : Verdict) :
    (v.notes clock x).map (·.besides hidden) = (v.notes clock' y).map (·.besides hidden) := by
  cases v with
  | handled =>
    rcases time with time | time <;>
      simp [Verdict.notes, Entry.besides, Entry.level, Entry.message, Entry.fields,
        List.filter_cons, uri, conn, time]
  | noSuchCommand =>
    simp [Verdict.notes, Entry.besides, Entry.level, Entry.message, Entry.fields, uri, conn]
  | failed fault =>
    cases client : fault.isClientFault <;>
      simp [Verdict.notes, client, Entry.besides, Entry.level, Entry.message, Entry.fields, uri,
        conn]

end

section

variable (setup : Setup) {a b : Http.Request} (uri : a.uri = b.uri)
  (chunked : a.isChunked = b.isChunked) (clock clock' : Clock) (state : State)
  (conn conn' : Handle)

include uri chunked

/-- The registry, the store and what is left to others go by what the request meets. -/
theorem surroundings_of_uri :
    let outcome := dispatch setup clock state a conn
    let outcome' := dispatch setup clock' state b conn'
    outcome.state.registry = outcome'.state.registry ∧
      outcome.state.store = outcome'.state.store ∧
      outcome.state.flushes = outcome'.state.flushes ∧ outcome.tasks = outcome'.tasks := by
  intro outcome outcome'
  by_cases met : Meets setup a (.command .shutdown)
  · have met' := met.of_uri uri chunked
    cases h : state.nextFlush.fault? with
    | none =>
      have ended : outcome = _ := dispatch_of_written met h
      have ended' : outcome' = _ := dispatch_of_written met' h
      rw [ended, ended']
      exact ⟨rfl, rfl, rfl, rfl⟩
    | some fault =>
      have ended : outcome = _ := dispatch_of_failedFlush met h
      have ended' : outcome' = _ := dispatch_of_failedFlush met' h
      rw [ended, ended']
      exact ⟨rfl, rfl, rfl, rfl⟩
  · have kept : Untouched state outcome := untouched_of_not_meets met
    have kept' : Untouched state outcome' :=
      untouched_of_not_meets (mt (meets_congr uri chunked).2 met)
    refine ⟨?_, ?_, kept.schedule.trans kept'.schedule.symm, kept.tasks.trans kept'.tasks.symm⟩
    · exact Registry.ext (kept.connections.trans kept'.connections.symm)
        (kept.nextId.trans kept'.nextId.symm) (kept.established.trans kept'.established.symm)
        (kept.closing.trans kept'.closing.symm)
    · exact PointStore.ext (kept.buffered.trans kept'.buffered.symm)
        (kept.flushed.trans kept'.flushed.symm) (kept.flushes.trans kept'.flushes.symm)

variable {setup clock clock'} (quiet : setup.NoEcho) (now : clock.now = clock'.now)

include quiet now

theorem response_of_uri :
    (dispatch setup clock state a conn).response =
      (dispatch setup clock' state b conn').response := by
  obtain ⟨e, met⟩ := exists_meets setup a
  have met' := met.of_uri uri chunked
  cases e with
  | command c =>
    rw [response_of_command met, response_of_command met', course_eq conn' quiet uri met, now]
  | _ =>
    rw [dispatch_of_meets met, dispatch_of_meets met', response_finish_settle,
      response_finish_settle]
    simp only [Work.meet, Work.note, Exchange.uri, uri]

theorem besides_journal_of_uri {hidden : List String} (named : "conn" ∈ hidden)
    (time : clock.reported = clock'.reported ∨ "elapsed_ms" ∈ hidden) :
    (dispatch setup clock state a conn).journal.map (·.besides hidden) =
      (dispatch setup clock' state b conn').journal.map (·.besides hidden) := by
  obtain ⟨e, met⟩ := exists_meets setup a
  have same : Exchange.uri { request := a, conn } = Exchange.uri { request := b, conn := conn' } :=
    uri
  rw [journal_dispatch met, journal_dispatch (met.of_uri uri chunked), ← now,
    verdict_of_uri conn' quiet uri met, List.map_append, List.map_append,
    besides_encounter_notes named same, besides_verdict_notes named same time]

/-- Both requests count alike, each with the time that it took. -/
theorem traffic_of_uri :
    ∃ counted : Traffic, counted.latency = state.traffic.latency ∧
      (dispatch setup clock state a conn).state.traffic = counted.query clock.elapsed ∧
      (dispatch setup clock' state b conn').state.traffic = counted.query clock'.elapsed := by
  refine ⟨_, ?_, traffic_dispatch setup clock state a conn, ?_⟩
  · split <;> rfl
  · rw [traffic_dispatch, ← now]
    simp only [unclassified_of_uri conn' quiet uri chunked]

end

/-! ## Main result -/

/-- Only the target and whether it is chunked matter of a request, unless a script
echoes it. Two requests that agree on these, on any two connections, have the same
response from the same state and move it in the same way, up to the latency that is
measured; the journal differs in the connection it names, and with the same readings
of the clock in nothing else. -/
theorem only_target_matters {setup : Setup} (quiet : setup.NoEcho) {a b : Http.Request}
    (uri : a.uri = b.uri) (chunked : a.isChunked = b.isChunked) (state : State)
    (conn conn' : Handle) {clock clock' : Clock} (now : clock.now = clock'.now) :
    let outcome := dispatch setup clock state a conn
    let outcome' := dispatch setup clock' state b conn'
    Indistinct outcome outcome' ∧
      outcome.state.traffic.latency = state.traffic.latency.observe clock.elapsed ∧
      outcome'.state.traffic.latency = state.traffic.latency.observe clock'.elapsed ∧
      (clock.elapsed = clock'.elapsed → outcome.state = outcome'.state) ∧
      (clock.reported = clock'.reported →
        outcome.journal.map (·.besides ["conn"]) =
          outcome'.journal.map (·.besides ["conn"])) := by
  intro outcome outcome'
  obtain ⟨registry, store, flushes, tasks⟩ :=
    surroundings_of_uri setup uri chunked clock clock' state conn conn'
  obtain ⟨counted, before, traffic, traffic'⟩ :=
    traffic_of_uri uri chunked state conn conn' quiet now
  refine ⟨?_, ?_, ?_, ?_, ?_⟩
  · exact {
      response := response_of_uri uri chunked state conn conn' quiet now
      queries := (congrArg Traffic.queries traffic).trans (congrArg Traffic.queries traffic').symm
      exceptions :=
        (congrArg Traffic.exceptions traffic).trans (congrArg Traffic.exceptions traffic').symm
      store, registry, flushes, tasks
      journal := besides_journal_of_uri uri chunked state conn conn' quiet now (by decide)
        (.inr (by decide)) }
  · rw [← before]
    exact congrArg Traffic.latency traffic
  · rw [← before]
    exact congrArg Traffic.latency traffic'
  · intro elapsed
    have moved : outcome.state.traffic = outcome'.state.traffic := by
      rw [traffic, traffic', elapsed]
    exact State.ext registry store moved flushes
  · intro reported
    exact besides_journal_of_uri uri chunked state conn conn' quiet now (by decide) (.inl reported)

/-- The script that replies and panics is asked for in two ways, on two connections
and with two bodies. -/
theorem only_target_matters_exPost :
    let post : Http.Request :=
      { exGet "/late" with method := "POST", headers := [("Accept", "*/*")], body := "a point" }
    let other : Handle := ⟨2, none⟩
    let slow : Clock := { exClock with elapsed := ⟨3, 0⟩ }
    exSetup.NoEcho ∧ (exGet "/late").uri = post.uri ∧
      (exGet "/late").isChunked = post.isChunked ∧ exClock.now = slow.now ∧
      Indistinct (dispatch exSetup exClock (exState .written) (exGet "/late") exConn)
        (dispatch exSetup slow (exState .written) post other) := by
  intro post other slow
  have quiet : exSetup.NoEcho := by
    intro name actions mem
    simp [exSetup] at mem
    obtain ⟨rfl, rfl⟩ | ⟨rfl, rfl⟩ := mem <;> decide
  have chunked : (exGet "/late").isChunked = post.isChunked := by decide +kernel
  have uri : (exGet "/late").uri = post.uri := rfl
  have now : exClock.now = slow.now := rfl
  obtain ⟨indistinct, -⟩ :=
    only_target_matters quiet uri chunked (exState .written) exConn other now
  exact ⟨quiet, uri, chunked, now, indistinct⟩

end AdminPort
