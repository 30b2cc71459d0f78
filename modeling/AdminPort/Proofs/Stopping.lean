import AdminPort.Proofs.ReplyLaw

/-!
# What a dispatch does to the things it administers

Only the command that stops the daemon touches the points, the connections and
the network. It closes the connections, flushes the store and leaves the release
of the network to another execution unit, in this order; a flush that fails ends
it between the last two.

Results:
1. `dispatch_of_written`, `dispatch_of_failedFlush`: the whole outcome of stopping.
2. `effects_dispatch`: the effects of every dispatch.
3. `unclassified_iff_of_failedFlush`: a failed flush is an unclassified failure
   unless the store puts it down to the client.
-/

namespace AdminPort

/-! ## Definitions -/

/-- `Untouched before outcome`: the points, the connections and the network are as
they were before. -/
structure Untouched (before : State) (outcome : Outcome) : Prop where
  buffered : outcome.state.store.buffered = before.store.buffered
  flushed : outcome.state.store.flushed = before.store.flushed
  flushes : outcome.state.store.flushes = before.store.flushes
  connections : outcome.state.registry.connections = before.registry.connections
  nextId : outcome.state.registry.nextId = before.registry.nextId
  established : outcome.state.registry.established = before.registry.established
  closing : outcome.state.registry.closing = before.registry.closing
  schedule : outcome.state.flushes = before.flushes
  tasks : outcome.tasks = []

/-- What stopping the daemon does, in parts. -/
inductive Effect where
  | closeConnections
  | flushStore
  | releaseNetwork
deriving DecidableEq, Repr

/-- What effects move: the state, the journal and the tasks left to other
execution units. -/
structure Scene where
  state : State
  journal : List Journal.Entry
  tasks : List Task
deriving Repr

namespace Effect

/-- The scene after an effect, and the fault that the effect ends in if it fails. -/
def take (scene : Scene) : Effect → Scene × Option Fault
  | closeConnections =>
    let (registry, closed) := scene.state.registry.closeAll
    ({ scene with state := { scene.state with registry }, journal := scene.journal ++ closed },
      none)
  | flushStore =>
    match scene.state.flush with
    | (state, .ok entry) => ({ scene with state, journal := scene.journal ++ [entry] }, none)
    | (state, .error fault) => ({ scene with state }, some fault)
  | releaseNetwork => ({ scene with tasks := scene.tasks ++ [.releaseNetwork] }, none)

/-- Effects in order, up to the first that fails. -/
def takeAll : List Effect → Scene → Scene
  | [], scene => scene
  | effect :: rest, scene =>
    match effect.take scene with
    | (scene, none) => takeAll rest scene
    | (scene, some _) => scene

/-- The effects that stop the daemon, in order. -/
def stopping : List Effect := [closeConnections, flushStore, releaseNetwork]

end Effect

/-- `Stopped before conn outcome`: a dispatch on the connection stopped the daemon.

* `inOrder`: connections are closed, then the store is flushed, then the network
  is released, up to the first of these that fails; the journal tells them in
  this order, behind the entry that announces them.
* `closing`, `connections`: only the first closing takes the open connections
  away.
* `written`: after a flush the points are counted as flushed, one release is
  left to another execution unit, and the confirmation goes out.
* `failed`: a flush that fails leaves the points alone and no release to anyone,
  and the confirmation that was sent before it does not go out. -/
structure Stopped (before : State) (conn : Handle) (outcome : Outcome) : Prop where
  inOrder :
    let scene := Effect.takeAll Effect.stopping ⟨before, [.shutdownRequested conn], []⟩
    outcome.state = { scene.state with traffic := outcome.state.traffic } ∧
      scene.journal <+: outcome.journal ∧ outcome.tasks = scene.tasks
  closing : outcome.state.registry.closing = true
  connections : outcome.state.registry.connections =
    if before.registry.closing then before.registry.connections else []
  established : outcome.state.registry.established = before.registry.established
  written : before.nextFlush = .written →
    outcome.state.store.buffered = #[] ∧
      outcome.state.store.flushed = before.store.flushed + UInt64.ofNat before.store.size ∧
      outcome.state.store.flushes = before.store.flushes + 1 ∧
      outcome.tasks = [.releaseNetwork] ∧
      outcome.response = Page.confirmation
  failed : before.nextFlush ≠ .written →
    outcome.state.store.buffered = before.store.buffered ∧
      outcome.state.store.flushed = before.store.flushed ∧
      outcome.state.store.flushes = before.store.flushes ∧
      outcome.tasks = [] ∧
      outcome.response ≠ Page.confirmation

/-! ## Helpers -/

namespace StoppingLemmas

variable {setup : Setup} {clock : Clock} {state : State} {request : Http.Request} {conn : Handle}

theorem fault?_eq_none_iff {flush : FlushOutcome} : flush.fault? = none ↔ flush = .written := by
  cases flush <;> simp [FlushOutcome.fault?]

theorem fault?_eq_badRequest_iff {flush : FlushOutcome} {reason : String} :
    flush.fault? = some (.badRequest reason) ↔ flush = .fails (.badRequest reason) := by
  cases flush with
  | written => simp [FlushOutcome.fault?]
  | fails fault => simp [FlushOutcome.fault?]
  | panics payload => cases payload <;> simp [FlushOutcome.fault?, Fault.ofPanic]

theorem isClientFault_iff {fault : Fault} :
    fault.isClientFault = true ↔ ∃ reason, fault = .badRequest reason := by
  cases fault <;> simp [Fault.isClientFault]

theorem settle_of_client {fault : Fault} (h : fault.isClientFault = true) (w : Work) :
    w.settle clock (.failed fault) = w.send (.badRequest fault.clientMessage) := by
  rw [Work.settle, if_pos h]

theorem settle_of_foreign {fault : Fault} (h : fault.isClientFault = false) (w : Work) :
    w.settle clock (.failed fault) =
      ((w.note [.requestFailed w.exchange.conn w.exchange.uri fault]).send
        (.internalError fault)).countException := by
  rw [Work.settle, if_neg (Bool.not_eq_true _ ▸ h)]

theorem tasks_settle (w : Work) (v : Verdict) : (w.settle clock v).tasks = w.tasks := by
  cases v with
  | failed => simp only [Work.settle]; split <;> rfl
  | _ => rfl

theorem flushes_settle (w : Work) (v : Verdict) :
    (w.settle clock v).state.flushes = w.state.flushes := by
  cases v with
  | failed => simp only [Work.settle]; split <;> rfl
  | _ => rfl

theorem connections_closeAll (r : Registry) :
    r.closeAll.1.connections = if r.closing then r.connections else [] := by
  cases h : r.closing <;> simp [Registry.closeAll, h]

theorem closing_closeAll (r : Registry) : r.closeAll.1.closing = true := by
  cases h : r.closing <;> simp [Registry.closeAll, h]

theorem established_closeAll (r : Registry) : r.closeAll.1.established = r.established := by
  cases h : r.closing <;> simp [Registry.closeAll, h]

theorem takeAll_of_written {s : State} (h : s.nextFlush.fault? = none)
    (journal : List Journal.Entry) (tasks : List Task) :
    Effect.takeAll Effect.stopping ⟨s, journal, tasks⟩ =
      ⟨{ s with
          registry := s.registry.closeAll.1, store := s.store.flush.1, flushes := s.flushes.tail },
        journal ++ s.registry.closeAll.2 ++ [s.store.flush.2], tasks ++ [.releaseNetwork]⟩ := by
  have written := State.flush_of_written (s := { s with registry := s.registry.closeAll.1 }) h
  simp only [Effect.stopping, Effect.takeAll, Effect.take, written]

theorem takeAll_of_failedFlush {s : State} {fault : Fault} (h : s.nextFlush.fault? = some fault)
    (journal : List Journal.Entry) (tasks : List Task) :
    Effect.takeAll Effect.stopping ⟨s, journal, tasks⟩ =
      ⟨{ s with registry := s.registry.closeAll.1, flushes := s.flushes.tail },
        journal ++ s.registry.closeAll.2, tasks⟩ := by
  have failed := State.flush_of_fault (s := { s with registry := s.registry.closeAll.1 }) h
  simp only [Effect.stopping, Effect.takeAll, Effect.take, failed]

end StoppingLemmas

open StoppingLemmas

/-! ## Outcomes -/

section

variable {setup : Setup} {clock : Clock} {state : State} {request : Http.Request} {conn : Handle}

/-- The outcome of stopping the daemon when the store is flushed. -/
theorem dispatch_of_written (met : Meets setup request (.command .shutdown))
    (h : state.nextFlush.fault? = none) :
    dispatch setup clock state request conn =
      { response := Page.confirmation
        state :=
          { registry := state.registry.closeAll.1
            store := state.store.flush.1
            traffic := state.traffic.query clock.elapsed
            flushes := state.flushes.tail }
        journal :=
          [.shutdownRequested conn] ++ state.registry.closeAll.2 ++ [state.store.flush.2] ++
            [.requestDone conn request.uri clock.reported.milliseconds]
        tasks := [.releaseNetwork] } := by
  have flushed : state.nextFlush = .written := fault?_eq_none_iff.1 h
  rw [dispatch_of_command met, Command.course, flushed, Work.run, Work.shutDown_of_written h]
  rfl

/-- The outcome of stopping the daemon when the flush fails. -/
theorem dispatch_of_failedFlush (met : Meets setup request (.command .shutdown)) {fault : Fault}
    (h : state.nextFlush.fault? = some fault) :
    dispatch setup clock state request conn =
      { response :=
          if fault.isClientFault then Page.blaming fault.clientMessage
          else ⟨500, some Page.mediaType, Page.Reason.failure.page fault.text⟩
        state :=
          { registry := state.registry.closeAll.1
            store := state.store
            traffic :=
              (if fault.isClientFault then state.traffic else state.traffic.exception).query
                clock.elapsed
            flushes := state.flushes.tail }
        journal :=
          [.shutdownRequested conn] ++ state.registry.closeAll.2 ++
            if fault.isClientFault then [] else [.requestFailed conn request.uri fault]
        tasks := [] } := by
  have verdict :
      (Command.shutdown.course setup state clock.now { request, conn }).verdict
        Command.shutdown.name = .failed fault := by
    simp only [Command.course, Course.verdict, FlushOutcome.fault?_ending, h]
  rw [dispatch_of_command met, verdict, Work.run, Work.shutDown_of_fault h]
  cases client : fault.isClientFault with
  | true =>
    rw [settle_of_client client, ← Page.response_badRequest]
    simp only [if_true, List.append_nil]
    rfl
  | false =>
    rw [settle_of_foreign client, ← Page.response_failure client]
    rfl

/-- A dispatch that does not meet the command that stops the daemon leaves all
alone, whatever it meets and however that ends. -/
theorem untouched_of_not_meets (other : ¬ Meets setup request (.command .shutdown)) :
    Untouched state (dispatch setup clock state request conn) := by
  obtain ⟨e, met⟩ := exists_meets setup request
  cases e with
  | command c =>
    -- any other command moves the exchange and nothing besides
    have ne : c ≠ .shutdown := by
      rintro rfl
      exact other met
    rw [dispatch_of_command met, Work.run_of_ne_shutdown _ _ _ ne]
    constructor <;> simp [Work.finish, tasks_settle, flushes_settle]
  | _ =>
    rw [dispatch_of_meets met]
    constructor <;> simp [Work.meet, Work.note, Work.finish, tasks_settle, flushes_settle]

theorem stopped_of_written (met : Meets setup request (.command .shutdown))
    (h : state.nextFlush.fault? = none) :
    Stopped state conn (dispatch setup clock state request conn) := by
  rw [dispatch_of_written met h]
  exact {
    inOrder := by
      rw [takeAll_of_written h]
      exact ⟨rfl, ⟨_, rfl⟩, rfl⟩
    closing := closing_closeAll _
    connections := connections_closeAll _
    established := established_closeAll _
    written := fun _ => ⟨rfl, rfl, rfl, rfl, rfl⟩
    failed := fun failed => absurd (fault?_eq_none_iff.1 h) failed }

theorem stopped_of_failedFlush (met : Meets setup request (.command .shutdown)) {fault : Fault}
    (h : state.nextFlush.fault? = some fault) :
    Stopped state conn (dispatch setup clock state request conn) := by
  have unconfirmed :
      (if fault.isClientFault then Page.blaming fault.clientMessage
        else ⟨500, some Page.mediaType, Page.Reason.failure.page fault.text⟩) ≠
          Page.confirmation := by
    -- the status alone tells the two answers from the confirmation
    split
    · intro same
      exact absurd (congrArg Response.status same) (show 400 ≠ 200 by decide)
    · intro same
      exact absurd (congrArg Response.status same) (show 500 ≠ 200 by decide)
  rw [dispatch_of_failedFlush met h]
  exact {
    inOrder := by
      rw [takeAll_of_failedFlush h]
      exact ⟨rfl, ⟨_, rfl⟩, rfl⟩
    closing := closing_closeAll _
    connections := connections_closeAll _
    established := established_closeAll _
    written := by
      intro written
      rw [fault?_eq_none_iff.2 written] at h
      cases h
    failed := fun _ => ⟨rfl, rfl, rfl, rfl, unconfirmed⟩ }

end

/-! ## Main results -/

/-- Every dispatch either leaves points, connections and network alone or stops
the daemon, and the second exactly if it meets the command for it. -/
theorem effects_dispatch (setup : Setup) (clock : Clock) (state : State)
    (request : Http.Request) (conn : Handle) :
    (¬ Meets setup request (.command .shutdown) →
        Untouched state (dispatch setup clock state request conn)) ∧
      (Meets setup request (.command .shutdown) →
        Stopped state conn (dispatch setup clock state request conn)) := by
  refine ⟨untouched_of_not_meets, ?_⟩
  intro met
  cases h : state.nextFlush.fault? with
  | none => exact stopped_of_written met h
  | some fault => exact stopped_of_failedFlush met h

/-- A daemon with one open connection and one flush to come, which ends as given. -/
def exState (flush : FlushOutcome) : State :=
  { State.initial [flush] with registry := ⟨[exConn], 2, 1, false, rfl⟩ }

/-- A script that replies and panics leaves all alone; stopping closes the one
connection and, as the flush panics, nothing else. -/
theorem effects_dispatch_exState :
    let before := exState (.panics .unreadable)
    (¬ Meets exSetup (exGet "/late") (.command .shutdown) ∧
        Untouched before (dispatch exSetup exClock before (exGet "/late") exConn)) ∧
      Meets exSetup (exGet "/diediedie") (.command .shutdown) ∧
        Stopped before exConn (dispatch exSetup exClock before (exGet "/diediedie") exConn) := by
  intro before
  have late : ¬ Meets exSetup (exGet "/late") (.command .shutdown) := by decide +kernel
  have stop : Meets exSetup (exGet "/diediedie") (.command .shutdown) := by decide +kernel
  refine ⟨⟨late, ?_⟩, stop, ?_⟩
  · exact (effects_dispatch exSetup exClock before (exGet "/late") exConn).1 late
  · exact (effects_dispatch exSetup exClock before (exGet "/diediedie") exConn).2 stop

/-- A failed flush leaves the network unreleased. It is an unclassified failure,
answered as such and counted once, unless the store put it down to the client. -/
theorem unclassified_iff_of_failedFlush {setup : Setup} (clock : Clock) {state : State}
    {request : Http.Request} (conn : Handle)
    (met : Meets setup request (.command .shutdown)) {fault : Fault}
    (failing : state.nextFlush.fault? = some fault) :
    let outcome := dispatch setup clock state request conn
    outcome.tasks = [] ∧
      ((outcome.response.status = 500 ∧
          outcome.state.traffic.exceptions = state.traffic.exceptions + 1) ↔
        ∀ reason, state.nextFlush ≠ .fails (.badRequest reason)) ∧
      ((∀ reason, state.nextFlush ≠ .fails (.badRequest reason)) →
        outcome.response = ⟨500, some Page.mediaType, Page.Reason.failure.page fault.text⟩) ∧
      ∀ reason, state.nextFlush = .fails (.badRequest reason) →
        outcome.response = Page.blaming reason ∧
          outcome.state.traffic.exceptions = state.traffic.exceptions := by
  intro outcome
  -- a panic is never put down to the client, so only a returned fault can be
  have foreign : (∀ reason, state.nextFlush ≠ .fails (.badRequest reason)) ↔
      fault.isClientFault = false := by
    rw [← Bool.not_eq_true, isClientFault_iff, not_exists]
    refine forall_congr' fun reason => not_congr ?_
    rw [← fault?_eq_badRequest_iff, failing, Option.some.injEq]
  have ended : outcome = _ := dispatch_of_failedFlush met failing
  rw [foreign, ended]
  cases client : fault.isClientFault with
  | true =>
    refine ⟨rfl, ?_, ?_, ?_⟩
    · simp [Page.blaming]
    · simp
    · intro reason blamed
      rw [← fault?_eq_badRequest_iff, failing] at blamed
      cases blamed
      exact ⟨rfl, rfl⟩
  | false =>
    refine ⟨rfl, ?_, ?_, ?_⟩
    · simp [Traffic.exception]
    · simp
    · intro reason blamed
      exact absurd blamed (foreign.2 client reason)

theorem unclassified_of_ioFault_exState :
    let before := exState (.fails (.io "disk gone"))
    let outcome := dispatch exSetup exClock before (exGet "/diediedie") exConn
    Meets exSetup (exGet "/diediedie") (.command .shutdown) ∧
      before.nextFlush.fault? = some (.io "disk gone") ∧ outcome.tasks = [] ∧
      outcome.response.status = 500 ∧ outcome.state.traffic.exceptions = 1 := by
  intro before outcome
  have met : Meets exSetup (exGet "/diediedie") (.command .shutdown) := by decide +kernel
  have failing : before.nextFlush.fault? = some (.io "disk gone") := rfl
  obtain ⟨tasks, unclassified, -, -⟩ :=
    unclassified_iff_of_failedFlush exClock exConn met failing
  have foreign : ∀ reason, before.nextFlush ≠ .fails (.badRequest reason) := by
    intro reason blamed
    cases blamed
  obtain ⟨status, exceptions⟩ := unclassified.2 foreign
  exact ⟨met, failing, tasks, status, exceptions⟩

/-- A flush that is put down to the client is answered as the client's own fault
and not counted. -/
theorem not_unclassified_of_badRequest_exState :
    let before := exState (.fails (.badRequest "disk full"))
    let outcome := dispatch exSetup exClock before (exGet "/diediedie") exConn
    Meets exSetup (exGet "/diediedie") (.command .shutdown) ∧
      before.nextFlush.fault? = some (.badRequest "disk full") ∧
      outcome.response.status = 400 ∧ outcome.state.traffic.exceptions = 0 ∧
      ¬ (outcome.response.status = 500 ∧
        outcome.state.traffic.exceptions = before.traffic.exceptions + 1) := by
  intro before outcome
  have met : Meets exSetup (exGet "/diediedie") (.command .shutdown) := by decide +kernel
  have failing : before.nextFlush.fault? = some (.badRequest "disk full") := rfl
  have ended : outcome = _ := dispatch_of_failedFlush met failing
  have status : outcome.response.status = 400 := by rw [ended]; rfl
  refine ⟨met, failing, status, by rw [ended]; rfl, ?_⟩
  rintro ⟨status', -⟩
  exact absurd (status.symm.trans status') (show 400 ≠ 500 by decide)

end AdminPort
