import AdminPort.Proofs.Counters
import AdminPort.Proofs.Stopping

/-!
# What the journal tells

A dispatch comes out in one of four ways, and its last entry in the journal says
which:

* a command was found and completed with a reply: "HTTP request done";
* no command has the routing key: "no such command";
* it was an unclassified failure: "HTTP request failed", with the text of the failure;
* it was an error of the client's: none of these three.

So the failures that are found in the journal are those on the counter, over any
run, and nothing but the errors of clients is missing from it. What comes before
the last entry is written by the guard against chunked requests and by the
command that stops the daemon.

Results:
1. `journal_dispatch`: the journal of a dispatch, by what its request meets.
2. `told_dispatch`: it tells how the dispatch came out.
3. `failures_journal`, `verdicts_journal`: what is counted in the journal of a run.
4. `journal_agrees`: journal and counters agree.
-/

namespace AdminPort

/-! ## Definitions -/

/-- The messages of the entries that tell how a dispatch came out. -/
def Journal.verdictMessages : List String :=
  ["HTTP request done", "no such command", "HTTP request failed"]

namespace Journal.Entry

/-- Whether an entry tells how a dispatch came out. -/
def tellsVerdict (e : Entry) : Bool := verdictMessages.contains e.message

/-- What is read of an entry: its level, its message and its fields. -/
def read (e : Entry) : Level × String × List (String × Text.Json.Value) :=
  (e.level, e.message, e.fields)

end Journal.Entry

/-- The entries of a journal that tell how dispatches came out. -/
def Journal.verdicts (journal : List Journal.Entry) : List Journal.Entry :=
  journal.filter (·.tellsVerdict)

/-- Whether a course comes to its end with a reply. -/
def Course.isReplied (course : Course) : Bool :=
  match course.ending with
  | .completed => !course.replies.isEmpty
  | _ => false

/-- Whether a course ends with a fault that is put down to the client. -/
def Course.isRejected (course : Course) : Bool :=
  match course.ending with
  | .returned fault => fault.isClientFault
  | _ => false

section

variable (setup : Setup) (state : State) (now : UInt64) (request : Http.Request) (conn : Handle)

/-- `Replied setup state now request conn`: the request meets a command that comes
to its end with a reply. -/
def Replied : Prop :=
  ∃ c ∈ setup.table.commands, Meets setup request (.command c) ∧
    (c.course setup state now { request, conn }).isReplied = true

/-- `ClientError setup state now request conn`: the request is chunked, its target
does not begin with a slash, or it meets a command that puts its fault down to the
client. -/
def ClientError : Prop :=
  request.isChunked = true ∨ request.uri.toList.head? ≠ some '/' ∨
    ∃ c ∈ setup.table.commands, Meets setup request (.command c) ∧
      (c.course setup state now { request, conn }).isRejected = true

instance : Decidable (ClientError setup state now request conn) :=
  inferInstanceAs (Decidable (_ ∨ _ ∨ ∃ c ∈ setup.table.commands, _))

/-- `FailsWith setup state now request conn text`: the request ends in an
unclassified failure of that text.

* `ended`: the command that is met returns a fault that is not the client's, or panics.
* `silent`: it comes to its end and replied nothing. -/
inductive FailsWith : String → Prop
  | ended {c : Command} {course : Course} {text : String} : Meets setup request (.command c) →
      c.course setup state now { request, conn } = course → course.ending.Fails text →
      FailsWith text
  | silent {c : Command} : Meets setup request (.command c) →
      c.course setup state now { request, conn } = ⟨[], .completed⟩ →
      FailsWith ("internal: command " ++ c.name ++ " completed without a reply")

end

section

variable (setup : Setup) (state : State) (clock : Clock) (request : Http.Request) (conn : Handle)

/-- `Told setup state clock request conn journal`: the journal tells how a dispatch of
the request came out.

* `last`: what tells it comes last.
* `replied`, `unknownKey`, `failed`, `clientError`: what the last entry is, or that
  there is none, says exactly how the dispatch came out.
* `outcomes`, `unclassified`: there is no fifth way, and every unclassified failure
  has its text.
* `stopping`, `announced`: what stopping the daemon writes down before, and how it reads. -/
structure Told (journal : List Journal.Entry) : Prop where
  last : ∃ before, journal = before ++ Journal.verdicts journal
  replied :
    (Journal.verdicts journal).map (·.read) =
        [(.info, "HTTP request done",
          [("conn", .text conn.text), ("uri", .text request.uri),
            ("elapsed_ms", .number clock.reported.milliseconds.toNat)])] ↔
      Replied setup state clock.now request conn
  unknownKey :
    (Journal.verdicts journal).map (·.read) =
        [(.debug, "no such command", [("conn", .text conn.text), ("uri", .text request.uri)])] ↔
      Meets setup request .unknownKey
  failed : ∀ text,
    (Journal.verdicts journal).map (·.read) =
        [(.error, "HTTP request failed",
          [("conn", .text conn.text), ("uri", .text request.uri), ("code", .text "INTERNAL"),
            ("error", .text text)])] ↔
      FailsWith setup state clock.now request conn text
  clientError :
    Journal.verdicts journal = [] ↔ ClientError setup state clock.now request conn
  outcomes :
    Replied setup state clock.now request conn ∨ Meets setup request .unknownKey ∨
      Unclassified setup state clock.now request conn ∨
      ClientError setup state clock.now request conn
  unclassified :
    Unclassified setup state clock.now request conn ↔
      ∃ text, FailsWith setup state clock.now request conn text
  stopping : Meets setup request (.command .shutdown) →
    journal =
      [.shutdownRequested conn] ++
        (if state.registry.closing then [] else [.closingConnections state.registry.size]) ++
        (if state.nextFlush = .written then [.storageFlushed state.store.size] else []) ++
        Journal.verdicts journal
  announced : Meets setup request (.command .shutdown) →
    journal.map (·.read) =
      [(.warn, "shutdown requested", [("conn", .text conn.text)])] ++
        (if state.registry.closing then []
          else [(.info, "closing all connections", [("open", .number state.registry.size)])]) ++
        (if state.nextFlush = .written then
          [(.debug, "storage flushed", [("points", .number state.store.size)])] else []) ++
        (Journal.verdicts journal).map (·.read)

end

/-- Whether a step that is taken in a state is a dispatch that ends in an error of
the client's. -/
def Step.isClientError (setup : Setup) (s : State) : Step → Bool
  | dispatch clock request conn => decide (ClientError setup s clock.now request conn)
  | _ => false

/-- What a step that is taken in a state writes to the journal. -/
def Step.notes (setup : Setup) (s : State) : Step → List Journal.Entry
  | dispatch clock request conn => (AdminPort.dispatch setup clock s request conn).journal
  | flush =>
    match s.flush.2 with
    | .ok entry => [entry]
    | .error _ => []
  | _ => []

/-- The journal of steps in order. -/
def State.journal (setup : Setup) (s : State) (steps : List Step) : List Journal.Entry :=
  (s.trace setup steps).flatMap fun taken => taken.2.notes setup taken.1

/-- The number of entries with a message. -/
def Journal.told (message : String) (journal : List Journal.Entry) : Nat :=
  journal.countP (·.message == message)

/-! ## The journal of a dispatch -/

/-- The verdict on what a request meets. -/
def Encounter.verdict (setup : Setup) (state : State) (now : UInt64) (x : Exchange) :
    Encounter → Verdict
  | chunked => .failed (.badRequest "Chunked request not supported.")
  | noKey reason => .failed (.badRequest reason)
  | unknownKey => .noSuchCommand
  | command c => (c.course setup state now x).verdict c.name

/-- What is written down on the way from what a request meets to a verdict. -/
def Encounter.notes (state : State) (x : Exchange) : Encounter → List Journal.Entry
  | chunked => [.chunkedRefused x.conn x.uri]
  | command .shutdown =>
    [.shutdownRequested x.conn] ++
      (if state.registry.closing then [] else [.closingConnections state.registry.size]) ++
      (if state.nextFlush = .written then [.storageFlushed state.store.size] else [])
  | _ => []

/-- The entry that tells a verdict; there is none on an error of the client's. -/
def Verdict.notes (clock : Clock) (x : Exchange) : Verdict → List Journal.Entry
  | handled => [.requestDone x.conn x.uri clock.reported.milliseconds]
  | noSuchCommand => [.noSuchCommand x.conn x.uri]
  | failed fault => if fault.isClientFault then [] else [.requestFailed x.conn x.uri fault]

namespace AccountLemmas

open StoppingLemmas

theorem journal_settle (w : Work) (clock : Clock) (v : Verdict) :
    (w.settle clock v).journal = w.journal ++ v.notes clock w.exchange := by
  cases v with
  | failed fault =>
    simp only [Work.settle, Verdict.notes]
    split
    · exact (List.append_nil _).symm
    · rfl
  | _ => rfl

theorem notes_closeAll (r : Registry) :
    r.closeAll.2 = if r.closing then [] else [.closingConnections r.size] := by
  rw [Registry.closeAll]
  split <;> rfl

/-- Only stopping the daemon writes anything down. -/
theorem journal_run (setup : Setup) (now : UInt64) (w : Work) (c : Command) :
    (w.run setup now c).1.journal =
      w.journal ++ (Encounter.command c).notes w.state w.exchange := by
  by_cases stops : c = .shutdown
  · subst stops
    rw [Work.run, Encounter.notes, ← notes_closeAll]
    cases h : w.state.nextFlush.fault? with
    | some fault =>
      have failing : w.state.nextFlush ≠ .written := by
        intro written
        rw [fault?_eq_none_iff.2 written] at h
        cases h
      simp [Work.shutDown_of_fault h, failing]
    | none =>
      simp [Work.shutDown_of_written h, fault?_eq_none_iff.1 h, PointStore.flush]
  · rw [Work.run_of_ne_shutdown _ _ _ stops]
    cases c with
    | shutdown => exact absurd rfl stops
    | _ => exact (List.append_nil _).symm

/-- The connection and the target are not among what a reply changes. -/
theorem notes_sendAll (clock : Clock) (v : Verdict) (x : Exchange) (replies : List Reply) :
    v.notes clock (x.sendAll replies) = v.notes clock x := by
  rw [Exchange.sendAll_eq]
  rfl

end AccountLemmas

open AccountLemmas

/-- The journal of a dispatch: what is written down on the way, and then the verdict. -/
theorem journal_dispatch {setup : Setup} {request : Http.Request} {e : Encounter}
    (met : Meets setup request e) (clock : Clock) (state : State) (conn : Handle) :
    (dispatch setup clock state request conn).journal =
      e.notes state { request, conn } ++
        (e.verdict setup state clock.now { request, conn }).notes clock { request, conn } := by
  cases e with
  | command c =>
    rw [dispatch_of_command met, Work.finish, journal_settle, journal_run, (Work.run_course ..).1,
      notes_sendAll]
    rfl
  | _ =>
    rw [dispatch_of_meets met]
    rfl

/-! ## How a dispatch comes out -/

namespace AccountLemmas

/-- Whether a verdict is an error of the client's. -/
def isClientError : Verdict → Bool
  | .failed fault => fault.isClientFault
  | _ => false

theorem verdicts_notes (clock : Clock) (v : Verdict) (x : Exchange) :
    Journal.verdicts (v.notes clock x) = v.notes clock x := by
  cases v with
  | failed fault =>
    simp only [Verdict.notes]
    split <;> rfl
  | _ => rfl

theorem verdicts_encounter_notes (e : Encounter) (state : State) (x : Exchange) :
    Journal.verdicts (e.notes state x) = [] := by
  cases e with
  | command c =>
    cases c with
    | shutdown =>
      simp only [Encounter.notes]
      split <;> split <;> rfl
    | _ => rfl
  | _ => rfl

/-- A fault that is not put down to the client has the code of all others. -/
theorem read_requestFailed {fault : Fault} (foreign : fault.isClientFault = false)
    (conn : Handle) (uri : String) :
    (Journal.Entry.requestFailed conn uri fault).read =
      (.error, "HTTP request failed",
        [("conn", .text conn.text), ("uri", .text uri), ("code", .text "INTERNAL"),
          ("error", .text fault.text)]) := by
  simp [Journal.Entry.read, Journal.Entry.level, Journal.Entry.message, Journal.Entry.fields,
    Fault.code, foreign, FaultCode.name]

/-- What stopping the daemon writes down, as it reads. -/
theorem read_stopping (state : State) (x : Exchange) :
    ((Encounter.command .shutdown).notes state x).map (·.read) =
      [(.warn, "shutdown requested", [("conn", .text x.conn.text)])] ++
        (if state.registry.closing then []
          else [(.info, "closing all connections", [("open", .number state.registry.size)])]) ++
        (if state.nextFlush = .written then
          [(.debug, "storage flushed", [("points", .number state.store.size)])] else []) := by
  rw [Encounter.notes]
  split <;> split <;> rfl

/-- A verdict can be read off its entry. -/
theorem read_notes_iff (clock : Clock) (v : Verdict) (x : Exchange) :
    ((v.notes clock x).map (·.read) =
        [(.info, "HTTP request done",
          [("conn", .text x.conn.text), ("uri", .text x.uri),
            ("elapsed_ms", .number clock.reported.milliseconds.toNat)])] ↔
      v = .handled) ∧
    ((v.notes clock x).map (·.read) =
        [(.debug, "no such command", [("conn", .text x.conn.text), ("uri", .text x.uri)])] ↔
      v = .noSuchCommand) ∧
    (∀ text, (v.notes clock x).map (·.read) =
        [(.error, "HTTP request failed",
          [("conn", .text x.conn.text), ("uri", .text x.uri), ("code", .text "INTERNAL"),
            ("error", .text text)])] ↔
      ∃ fault, v = .failed fault ∧ fault.isClientFault = false ∧ fault.text = text) ∧
    (v.notes clock x = [] ↔ isClientError v = true) := by
  cases v with
  | handled | noSuchCommand =>
    simp [Verdict.notes, isClientError, Journal.Entry.read, Journal.Entry.level,
      Journal.Entry.message, Journal.Entry.fields]
  | failed fault =>
    cases client : fault.isClientFault with
    | true => simp [Verdict.notes, isClientError, client]
    | false => simp [Verdict.notes, isClientError, client, read_requestFailed client]

theorem isReplied_iff {name : String} {course : Course} :
    course.isReplied = true ↔ course.verdict name = .handled := by
  obtain ⟨replies, ending⟩ := course
  cases ending with
  | completed => cases replies <;> simp [Course.isReplied, Course.verdict, Ending.fault?]
  | _ => simp [Course.isReplied, Course.verdict, Ending.fault?]

theorem isClientError_verdict (name : String) (course : Course) :
    isClientError (course.verdict name) = course.isRejected := by
  obtain ⟨replies, ending⟩ := course
  cases ending with
  | completed => cases replies <;> rfl
  | returned fault => rfl
  | panicked payload => cases payload <;> rfl

end AccountLemmas

section

variable {setup : Setup} {state : State} {now : UInt64} {request : Http.Request} {conn : Handle}
  {e : Encounter}

/-- A request meets one thing only. -/
theorem Meets.unique {e' : Encounter} (h : Meets setup request e) (h' : Meets setup request e') :
    e = e' := by
  cases h with
  | command plain key mem => exact (h'.eq_command (.command plain key mem)).symm
  | chunked chunked =>
    cases h' with
    | chunked => rfl
    | empty plain _ | noSlash plain _ _ | unknownKey plain _ _ | command plain _ _ =>
      simp [chunked] at plain
  | empty plain empty =>
    cases h' with
    | empty => rfl
    | chunked chunked => simp [plain] at chunked
    | noSlash _ nonempty _ => exact absurd empty nonempty
    | unknownKey _ key _ | command _ key _ =>
      simp [empty] at key
      cases key
  | noSlash plain nonempty noSlash =>
    cases h' with
    | noSlash => rfl
    | chunked chunked => simp [plain] at chunked
    | empty _ empty => exact absurd empty nonempty
    | unknownKey _ key _ | command _ key _ =>
      exact absurd (RoutingKey.head?_of_ofTarget key) noSlash
  | unknownKey plain key unknown =>
    cases h' with
    | unknownKey => rfl
    | command plain' key' mem =>
      exact (Meets.unknownKey plain key unknown).eq_command (.command plain' key' mem)
    | chunked chunked => simp [plain] at chunked
    | empty _ empty =>
      simp [empty] at key
      cases key
    | noSlash _ _ noSlash => exact absurd (RoutingKey.head?_of_ofTarget key) noSlash

/-- Exactly a request that is refused before its routing key is looked up is chunked
or has a target without a slash in front. -/
theorem refused_iff (met : Meets setup request e) :
    (request.isChunked = true ∨ request.uri.toList.head? ≠ some '/') ↔
      e = .chunked ∨ ∃ reason, e = .noKey reason := by
  constructor
  · rintro (chunked | noSlash)
    · exact .inl (met.unique (.chunked chunked))
    · cases met with
      | chunked => exact .inl rfl
      | empty | noSlash => exact .inr ⟨_, rfl⟩
      | unknownKey _ key _ | command _ key _ =>
        exact absurd (RoutingKey.head?_of_ofTarget key) noSlash
  · rintro (rfl | ⟨reason, rfl⟩)
    · cases met with
      | chunked chunked => exact .inl chunked
    · cases met with
      | empty _ empty => exact .inr (by simp [empty])
      | noSlash _ _ noSlash => exact .inr noSlash

theorem replied_iff (met : Meets setup request e) :
    Replied setup state now request conn ↔
      e.verdict setup state now { request, conn } = .handled := by
  constructor
  · rintro ⟨c, -, met', replied⟩
    rw [met.unique met']
    exact isReplied_iff.1 replied
  · intro handled
    cases e with
    | command c => exact ⟨c, (meets_command_iff.1 met).1, met, isReplied_iff.2 handled⟩
    | _ => cases handled

theorem unknownKey_iff (met : Meets setup request e) :
    Meets setup request .unknownKey ↔
      e.verdict setup state now { request, conn } = .noSuchCommand := by
  constructor
  · intro unknown
    rw [met.unique unknown]
    rfl
  · intro missing
    cases e with
    | unknownKey => exact met
    | command c =>
      simp only [Encounter.verdict, Course.verdict] at missing
      split at missing
      · cases missing
      · split at missing <;> cases missing
    | _ => cases missing

theorem failsWith_iff (met : Meets setup request e) {text : String} :
    FailsWith setup state now request conn text ↔
      ∃ fault, e.verdict setup state now { request, conn } = .failed fault ∧
        fault.isClientFault = false ∧ fault.text = text := by
  constructor
  · intro fails
    cases fails with
    | ended met' took ends =>
      obtain ⟨fault, ended, foreign, text⟩ := Ending.fails_iff.1 ends
      refine ⟨fault, ?_, foreign, text⟩
      simp [met.unique met', Encounter.verdict, took, Course.verdict, ended]
    | silent met' took =>
      refine ⟨_, ?_, rfl, Work.text_noReplyMessage _⟩
      simp [met.unique met', Encounter.verdict, took, Course.verdict, Ending.fault?]
  · rintro ⟨fault, failed, foreign, rfl⟩
    cases e with
    | command c =>
      rcases took : c.course setup state now { request, conn } with ⟨replies, ending⟩
      simp only [Encounter.verdict, took] at failed
      cases ending with
      | completed =>
        cases replies with
        | nil =>
          cases failed
          rw [Work.text_noReplyMessage]
          exact .silent met took
        | cons => cases failed
      | returned | panicked =>
        cases failed
        exact .ended met took (Ending.fails_iff.2 ⟨_, rfl, foreign, rfl⟩)
    | unknownKey => cases failed
    | _ =>
      cases failed
      cases foreign

theorem clientError_iff (met : Meets setup request e) :
    ClientError setup state now request conn ↔
      isClientError (e.verdict setup state now { request, conn }) = true := by
  rw [ClientError, ← or_assoc, refused_iff met]
  constructor
  · rintro ((rfl | ⟨reason, rfl⟩) | ⟨c, -, met', rejected⟩)
    · rfl
    · rfl
    · rw [met.unique met']
      exact (isClientError_verdict _ _).trans rejected
  · intro client
    cases e with
    | chunked => exact .inl (.inl rfl)
    | noKey reason => exact .inl (.inr ⟨reason, rfl⟩)
    | unknownKey => cases client
    | command c =>
      have rejected := (isClientError_verdict _ _).symm.trans client
      exact .inr ⟨c, (meets_command_iff.1 met).1, met, rejected⟩

theorem unclassified_iff_isException (met : Meets setup request e) :
    Unclassified setup state now request conn ↔
      CountersLemmas.isException (e.verdict setup state now { request, conn }) = true := by
  cases e with
  | command c =>
    rw [unclassified_iff met, ← CountersLemmas.isException_verdict c.name]
    rfl
  | _ => exact iff_of_false (not_unclassified met nofun) nofun

/-- An unclassified failure has its text. -/
theorem unclassified_iff_exists :
    Unclassified setup state now request conn ↔
      ∃ text, FailsWith setup state now request conn text := by
  obtain ⟨e, met⟩ := exists_meets setup request
  rw [unclassified_iff_isException met]
  simp only [failsWith_iff met]
  cases e.verdict setup state now { request, conn } <;> simp [CountersLemmas.isException]

/-- There are four ways in which a dispatch may come out. -/
theorem outcome_cases (setup : Setup) (state : State) (now : UInt64) (request : Http.Request)
    (conn : Handle) :
    Replied setup state now request conn ∨ Meets setup request .unknownKey ∨
      Unclassified setup state now request conn ∨ ClientError setup state now request conn := by
  obtain ⟨e, met⟩ := exists_meets setup request
  have missing : Meets setup request .unknownKey ↔
      e.verdict setup state now { request, conn } = .noSuchCommand := unknownKey_iff met
  rw [replied_iff met, missing, clientError_iff met, unclassified_iff_exists]
  simp only [failsWith_iff met]
  cases e.verdict setup state now { request, conn } with
  | handled => exact .inl rfl
  | noSuchCommand => exact .inr (.inl rfl)
  | failed fault =>
    cases client : fault.isClientFault with
    | true => exact .inr (.inr (.inr client))
    | false => exact .inr (.inr (.inl ⟨_, fault, rfl, client, rfl⟩))

end

/-- The journal of a dispatch tells how it came out. -/
theorem told_dispatch (setup : Setup) (clock : Clock) (state : State) (request : Http.Request)
    (conn : Handle) :
    Told setup state clock request conn (dispatch setup clock state request conn).journal := by
  obtain ⟨e, met⟩ := exists_meets setup request
  have whole := journal_dispatch met clock state conn
  have verdict : Journal.verdicts (dispatch setup clock state request conn).journal =
      (e.verdict setup state clock.now { request, conn }).notes clock { request, conn } := by
    rw [whole, Journal.verdicts, List.filter_append]
    exact congrArg₂ (· ++ ·) (verdicts_encounter_notes _ _ _) (verdicts_notes _ _ _)
  obtain ⟨handled, missing, failed, client⟩ :=
    read_notes_iff clock (e.verdict setup state clock.now { request, conn }) { request, conn }
  exact {
    last := ⟨_, by rw [verdict]; exact whole⟩
    replied := by rw [verdict, replied_iff met]; exact handled
    unknownKey := by rw [verdict, unknownKey_iff met]; exact missing
    failed := fun text => by rw [verdict, failsWith_iff met]; exact failed text
    clientError := by rw [verdict, clientError_iff met]; exact client
    outcomes := outcome_cases setup state clock.now request conn
    unclassified := unclassified_iff_exists
    stopping := fun stops => by
      rw [verdict, whole, met.unique stops]
      rfl
    announced := fun stops => by
      rw [verdict, whole, List.map_append, met.unique stops, read_stopping] }

/-! ## Runs -/

namespace AccountLemmas

open Journal

theorem told_append (message : String) (a b : List Entry) :
    told message (a ++ b) = told message a + told message b :=
  List.countP_append

theorem told_journal_cons (setup : Setup) (s : State) (message : String) (step : Step)
    (rest : List Step) :
    told message (s.journal setup (step :: rest)) =
      told message (step.notes setup s) +
        told message ((s.step setup step).journal setup rest) := by
  rw [State.journal, State.trace, List.flatMap_cons, told_append]
  rfl

/-- What is written down on the way tells no verdict. -/
theorem told_encounter_notes {message : String} (tells : message ∈ verdictMessages) (e : Encounter)
    (state : State) (x : Exchange) : told message (e.notes state x) = 0 := by
  rw [told, List.countP_eq_zero]
  intro entry mem same
  refine List.filter_eq_nil_iff.1 (verdicts_encounter_notes e state x) entry mem ?_
  rw [Entry.tellsVerdict, beq_iff_eq.1 same]
  exact List.contains_iff_mem.2 tells

theorem told_verdict_notes (clock : Clock) (v : Verdict) (x : Exchange) :
    let notes := v.notes clock x
    told "HTTP request failed" notes = (if CountersLemmas.isException v then 1 else 0) ∧
      told "HTTP request done" notes + told "no such command" notes +
          told "HTTP request failed" notes + (if isClientError v then 1 else 0) = 1 := by
  cases v with
  | handled | noSuchCommand => exact ⟨rfl, rfl⟩
  | failed fault =>
    cases client : fault.isClientFault <;>
      simp [Verdict.notes, CountersLemmas.isException, isClientError, client, told, Entry.message]

/-- The journal of a dispatch tells its verdict, and tells it once. -/
theorem told_dispatch_notes (setup : Setup) (clock : Clock) (s : State) (request : Http.Request)
    (conn : Handle) :
    let journal := (dispatch setup clock s request conn).journal
    told "HTTP request failed" journal =
        (if Unclassified setup s clock.now request conn then 1 else 0) ∧
      told "HTTP request done" journal + told "no such command" journal +
          told "HTTP request failed" journal +
          (if ClientError setup s clock.now request conn then 1 else 0) = 1 := by
  intro journal
  obtain ⟨e, met⟩ := exists_meets setup request
  have whole : journal = _ := journal_dispatch met clock s conn
  have tells (message : String) (tells : message ∈ verdictMessages) :
      told message journal =
        told message
          ((e.verdict setup s clock.now { request, conn }).notes clock { request, conn }) := by
    rw [whole, told_append, told_encounter_notes tells, Nat.zero_add]
  rw [tells _ (by decide), tells _ (by decide), tells _ (by decide)]
  simp only [unclassified_iff_isException met, clientError_iff met]
  exact told_verdict_notes _ _ _

/-- The same of any step; a flush tells no verdict. -/
theorem told_notes (setup : Setup) (s : State) (step : Step) :
    told "HTTP request failed" (step.notes setup s) =
        (if step.isUnclassified setup s then 1 else 0) ∧
      told "HTTP request done" (step.notes setup s) + told "no such command" (step.notes setup s) +
          told "HTTP request failed" (step.notes setup s) +
          (if step.isClientError setup s then 1 else 0) =
        if step.isDispatch then 1 else 0 := by
  cases step with
  | dispatch clock request conn =>
    simpa [Step.notes, Step.isUnclassified, Step.isClientError, Step.isDispatch] using
      told_dispatch_notes setup clock s request conn
  | flush =>
    cases h : s.nextFlush.fault? with
    | some fault =>
      rw [Step.notes, State.flush_of_fault h]
      exact ⟨rfl, rfl⟩
    | none =>
      rw [Step.notes, State.flush_of_written h]
      exact ⟨rfl, rfl⟩
  | _ => exact ⟨rfl, rfl⟩

end AccountLemmas

open Journal

section

variable (setup : Setup) (s : State) (steps : List Step)

/-- The failures in the journal of a run are its unclassified failures. -/
theorem failures_journal :
    told "HTTP request failed" (s.journal setup steps) =
      (s.trace setup steps).countP fun taken => taken.2.isUnclassified setup taken.1 := by
  induction steps generalizing s with
  | nil => rfl
  | cons step rest ih =>
    rw [told_journal_cons, ih, (told_notes setup s step).1, State.trace, List.countP_cons,
      Nat.add_comm]

/-- Every dispatch of a run has its verdict in the journal, but for the errors of
clients. -/
theorem verdicts_journal :
    told "HTTP request done" (s.journal setup steps) +
        told "no such command" (s.journal setup steps) +
        told "HTTP request failed" (s.journal setup steps) +
        ((s.trace setup steps).countP fun taken => taken.2.isClientError setup taken.1) =
      steps.countP Step.isDispatch := by
  induction steps generalizing s with
  | nil => rfl
  | cons step rest ih =>
    have first := (told_notes setup s step).2
    have others := ih (s.step setup step)
    simp only [told_journal_cons, State.trace, List.countP_cons]
    omega

end

/-! ## Main result -/

/-- Journal and counters agree. A dispatch ends with the one entry that tells how it
came out, or with none if it was an error of the client's. So over a run from the
start the failures in the journal are the exceptions, and what is told there comes
with the errors of clients to the queries. The counters are words; they are exact
as long as the run has fewer steps than that. -/
theorem journal_agrees (setup : Setup) :
    (∀ clock state request conn,
      Told setup state clock request conn
        (dispatch setup clock state request conn).journal) ∧
      ∀ flushes steps,
        let counters := ((State.initial flushes).run setup steps).traffic
        let journal := (State.initial flushes).journal setup steps
        let failures := told "HTTP request failed" journal
        let clientErrors := ((State.initial flushes).trace setup steps).countP
          fun taken => taken.2.isClientError setup taken.1
        let verdicts := told "HTTP request done" journal + told "no such command" journal +
          failures + clientErrors
        counters.exceptions = UInt64.ofNat failures ∧
          counters.queries = UInt64.ofNat verdicts ∧
          (steps.length < UInt64.size →
            counters.exceptions.toNat = failures ∧ counters.queries.toNat = verdicts) := by
  refine ⟨fun clock state request conn => told_dispatch setup clock state request conn, ?_⟩
  intro flushes steps counters journal failures clientErrors verdicts
  have failed : failures = _ := failures_journal setup (State.initial flushes) steps
  have dispatched : verdicts = _ := verdicts_journal setup (State.initial flushes) steps
  have exceptions : counters.exceptions = UInt64.ofNat failures := by
    rw [failed]
    exact (exceptions_run setup _ steps).trans (UInt64.zero_add _)
  have queries : counters.queries = UInt64.ofNat verdicts := by
    rw [dispatched]
    exact (queries_run setup _ steps).trans (UInt64.zero_add _)
  refine ⟨exceptions, queries, fun few => ?_⟩
  have fewer : failures ≤ verdicts := by
    rw [failed, dispatched]
    exact unclassified_le_dispatches setup _ steps
  have bound : verdicts < UInt64.size := by
    rw [dispatched]
    exact Nat.lt_of_le_of_lt List.countP_le_length few
  rw [exceptions, queries]
  exact ⟨UInt64.toNat_ofNat_of_lt' (Nat.lt_of_le_of_lt fewer bound),
    UInt64.toNat_ofNat_of_lt' bound⟩

/-- Six requests, of which the journal knows five: one key was unknown and four
requests failed. The sixth was the flush that was put down to the client. -/
theorem journal_agrees_exSteps :
    let journal := (State.initial exFlushes).journal exSetup exSteps
    let counters := ((State.initial exFlushes).run exSetup exSteps).traffic
    exSteps.length < UInt64.size ∧ told "HTTP request done" journal = 0 ∧
      told "no such command" journal = 1 ∧ told "HTTP request failed" journal = 4 ∧
      counters.exceptions.toNat = 4 ∧ counters.queries.toNat = 6 := by
  intro journal counters
  obtain ⟨-, run⟩ := journal_agrees exSetup
  obtain ⟨-, -, counted⟩ := run exFlushes exSteps
  have few : exSteps.length < UInt64.size := by decide
  have failed : told "HTTP request failed" journal = 4 := by decide +kernel
  obtain ⟨exceptions, queries⟩ := counted few
  refine ⟨few, by decide +kernel, by decide +kernel, failed, exceptions.trans failed, ?_⟩
  exact queries.trans (by decide +kernel)

end AdminPort
