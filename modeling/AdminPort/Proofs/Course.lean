import AdminPort.Proofs.Encounter
import Mathlib.Data.List.TakeWhile

/-!
# The course of a command

What a command does to the exchange that it is run on, told apart from the work:
the replies that it sends, in order, and the way it ends.

* A scripted command sends the replies of its actions up to the first one that
  returns a fault or panics.
* Stopping the daemon confirms, and then ends as the flush of the store ends.
* Statistics are one text of all components, unless the text protocol panics.
* The build data are always sent.

Results:
1. `Action.run_eq_course`: a script sends the replies of its course and ends with its ending.
2. `statsText_eq`: the statistics are the calls of all components in order, or a panic.
3. `run_course`: the same of every command.
4. `dispatch_of_command`: a dispatch settles the verdict on the course of its command.
-/

namespace AdminPort

/-! ## Definitions -/

/-- How a command ends on its own account. -/
inductive Ending where
  | completed
  | returned (fault : Fault)
  | panicked (payload : PanicPayload)
deriving DecidableEq, Repr

/-- The fault that an ending comes to, if it is one. -/
def Ending.fault? : Ending → Option Fault
  | completed => none
  | returned fault => some fault
  | panicked payload => some (.ofPanic payload)

/-- The replies that a command sends, in order, and how it ends. -/
structure Course where
  replies : List Reply
  ending : Ending
deriving DecidableEq, Repr

/-- How an action ends its command, if it does. -/
def Action.ending? : Action → Option Ending
  | fail fault => some (.returned fault)
  | panic payload => some (.panicked payload)
  | _ => none

/-- The course of a script: its actions in order, up to the first that ends it. -/
def Action.course (x : Exchange) (actions : List Action) : Course where
  replies := (actions.takeWhile (·.ending?.isNone)).filterMap (·.reply? x)
  ending := (actions.findSome? ending?).getD .completed

/-- The ending of a command that ends with a flush of the store. -/
def FlushOutcome.ending : FlushOutcome → Ending
  | written => .completed
  | fails fault => .returned fault
  | panics payload => .panicked payload

/-- The call that a component makes in a step of its report, if it makes one. -/
def Stats.ReportStep.call? : Stats.ReportStep → Option Stats.Call
  | call c => some c
  | panic _ => none

/-- What a component throws in a step of its report, if it does. -/
def Stats.ReportStep.payload? : Stats.ReportStep → Option PanicPayload
  | call _ => none
  | panic payload => some payload

namespace Setup

/-- What the text protocol throws instead of reporting, if it does. -/
def reportPanic? (setup : Setup) : Option PanicPayload :=
  setup.textProtocol.findSome? (·.payload?)

/-- The calls on the collector of the statistics: the host tag, and then the
components in order. -/
def statsCalls (setup : Setup) (state : State) : List Stats.Call :=
  .hostTag :: state.registry.stats ++ setup.textProtocol.filterMap (·.call?) ++
    state.traffic.stats ++ state.store.stats

/-- The statistics of all components as one text. -/
def statsBody (setup : Setup) (state : State) (now : UInt64) : String :=
  ((setup.statsCalls state).foldl Stats.Call.apply
    { base := setup.statsBase, host := setup.statsHost, timestamp := now }).text

/-- The build data as a reply: JSON if the target ends in that word. -/
def buildReply (setup : Setup) (uri : String) : Reply :=
  if "json".toList <:+ uri.toList then .json setup.build.json else .plain setup.build.text

end Setup

/-- The course of a command in a state. -/
def Command.course (setup : Setup) (state : State) (now : UInt64) (x : Exchange) :
    Command → Course
  | shutdown => ⟨[.page 200 Page.exiting], state.nextFlush.ending⟩
  | stats =>
    match setup.reportPanic? with
    | some payload => ⟨[], .panicked payload⟩
    | none => ⟨[.plain (setup.statsBody state now)], .completed⟩
  | version => ⟨[setup.buildReply x.uri], .completed⟩
  | script _ actions => Action.course x actions

/-- The verdict on a command of a name that took a course. -/
def Course.verdict (name : String) (course : Course) : Verdict :=
  match course.ending.fault? with
  | some fault => .failed fault
  | none =>
    if course.replies = [] then .failed (.internal (Work.noReplyMessage name)) else .handled

/-! ## Replies in order -/

/-- The exchange after replies in order. -/
def Exchange.sendAll (x : Exchange) (replies : List Reply) : Exchange :=
  replies.foldl Exchange.send x

/-- Of several replies the last one stays, and nothing else of the exchange changes. -/
theorem Exchange.sendAll_eq (x : Exchange) (replies : List Reply) :
    x.sendAll replies = { x with reply := replies.getLast?.or x.reply } := by
  induction replies generalizing x with
  | nil => rfl
  | cons r rest ih =>
    rw [sendAll, List.foldl_cons, ← sendAll, ih]
    cases rest with
    | nil => rfl
    | cons r' rest => simp [send, List.getLast?_cons]

/-! ## Scripts -/

namespace Action

/-- What an action replies does not depend on the replies before it. -/
theorem reply?_send (x : Exchange) (r : Reply) (action : Action) :
    action.reply? (x.send r) = action.reply? x := by
  cases action <;> rfl

theorem course_send (x : Exchange) (r : Reply) (actions : List Action) :
    course (x.send r) actions = course x actions := by
  simp only [course, reply?_send]

/-- A script sends the replies of its course and ends with its ending. -/
theorem run_eq_course (actions : List Action) (x : Exchange) :
    run actions x = (x.sendAll (course x actions).replies, (course x actions).ending.fault?) := by
  induction actions generalizing x with
  | nil => rfl
  | cons action rest ih =>
    cases action with
    | fail _ | panic _ => rfl
    | _ =>
      -- every other action sends a reply and leaves the rest of the script to run
      rw [run]
      simp only [fault?, perform, reply?]
      rw [ih, course_send]
      simp [course, ending?, reply?, Exchange.sendAll, List.findSome?_cons]

theorem ending?_ne_completed (action : Action) : action.ending? ≠ some .completed := by
  cases action <;> simp [ending?]

/-- A script comes to its end if none of its actions ends it. -/
theorem ending_course_iff {x : Exchange} {actions : List Action} :
    (course x actions).ending = .completed ↔ ∀ action ∈ actions, action.ending? = none := by
  rw [course, ← List.findSome?_eq_none_iff]
  cases found : actions.findSome? ending? with
  | none => simp
  | some ending =>
    obtain ⟨action, -, ended⟩ := List.exists_of_findSome?_eq_some found
    have : ending ≠ .completed := by
      rintro rfl
      exact action.ending?_ne_completed ended
    simp [this]

/-- An action that does not end its command replies. -/
theorem exists_reply {action : Action} (runs : action.ending? = none) (x : Exchange) :
    ∃ reply, action.reply? x = some reply := by
  cases action with
  | fail | panic => cases runs
  | _ => exact ⟨_, rfl⟩

/-- Then each of them has replied. -/
theorem replies_course {x : Exchange} {actions : List Action}
    (runs : ∀ action ∈ actions, action.ending? = none) :
    (course x actions).replies = actions.filterMap (·.reply? x) := by
  rw [course, List.takeWhile_eq_self_iff.2 fun action mem => by simp [runs action mem]]

end Action

/-! ## Statistics -/

namespace Stats

/-- A report without a panic makes its calls in order; any other is spoiled by its
first panic. -/
theorem report_eq (steps : List ReportStep) (c : Collector) :
    report steps c =
      match steps.findSome? (·.payload?) with
      | some payload => .error (.ofPanic payload)
      | none => .ok ((steps.filterMap (·.call?)).foldl Call.apply c) := by
  induction steps generalizing c with
  | nil => rfl
  | cons step rest ih =>
    cases step with
    | call call =>
      rw [report, ih]
      simp [ReportStep.payload?, ReportStep.call?]
    | panic payload => simp [report, ReportStep.payload?]

end Stats

theorem Setup.reportPanic?_eq_none_iff {setup : Setup} :
    setup.reportPanic? = none ↔ ∀ payload, .panic payload ∉ setup.textProtocol := by
  rw [reportPanic?, List.findSome?_eq_none_iff]
  constructor
  · intro quiet payload mem
    cases quiet _ mem
  · intro quiet step mem
    cases step with
    | call => rfl
    | panic payload => exact absurd mem (quiet payload)

/-- The statistics are the calls of all components on one collector, unless the
text protocol panics. -/
theorem Setup.statsText_eq (setup : Setup) (state : State) (now : UInt64) :
    setup.statsText state now =
      match setup.reportPanic? with
      | some payload => .error (.ofPanic payload)
      | none => .ok (setup.statsBody state now) := by
  simp only [statsText, Stats.report_eq, reportPanic?]
  cases setup.textProtocol.findSome? (·.payload?) with
  | some payload => rfl
  | none => simp [statsBody, statsCalls, Stats.Call.apply, bind, Except.bind, pure, Except.pure]

/-! ## Build data -/

theorem suffix_iff {suffix s : String} :
    suffix.toList <:+ s.toList ↔ ∃ front, s = front ++ suffix := by
  constructor
  · rintro ⟨front, cut⟩
    exact ⟨String.ofList front, String.toList_inj.1 (by simpa using cut.symm)⟩
  · rintro ⟨front, rfl⟩
    exact ⟨front.toList, by simp⟩

section

variable (setup : Setup) {uri : String}

theorem Setup.buildReply_of_json (asked : ∃ front, uri = front ++ "json") :
    setup.buildReply uri = .json setup.build.json := if_pos (suffix_iff.2 asked)

theorem Setup.buildReply_of_text (otherwise : ¬ ∃ front, uri = front ++ "json") :
    setup.buildReply uri = .plain setup.build.text := if_neg (mt suffix_iff.1 otherwise)

end

/-! ## Stopping the daemon -/

/-- Stopping ends in the fault of its flush. -/
theorem FlushOutcome.fault?_ending (flush : FlushOutcome) : flush.ending.fault? = flush.fault? := by
  cases flush <;> rfl

namespace State

theorem flush_of_fault {s : State} {fault : Fault} (h : s.nextFlush.fault? = some fault) :
    s.flush = ({ s with flushes := s.flushes.tail }, .error fault) := by
  simp only [flush, h]

theorem flush_of_written {s : State} (h : s.nextFlush.fault? = none) :
    s.flush =
      ({ s with flushes := s.flushes.tail, store := s.store.flush.1 }, .ok s.store.flush.2) := by
  simp only [flush, h]

end State

namespace Work

/-- A flush that fails ends the command when the connections are closed and
before the release is left to anyone. -/
theorem shutDown_of_fault {w : Work} {fault : Fault}
    (h : w.state.nextFlush.fault? = some fault) :
    w.shutDown =
      ({ exchange := w.exchange.send (.page 200 Page.exiting)
         state :=
          { w.state with registry := w.state.registry.closeAll.1, flushes := w.state.flushes.tail }
         journal :=
          w.journal ++ [.shutdownRequested w.exchange.conn] ++ w.state.registry.closeAll.2
         tasks := w.tasks }, some fault) := by
  have failed :=
    State.flush_of_fault (s := { w.state with registry := w.state.registry.closeAll.1 }) h
  simp only [shutDown, send, note, failed]

theorem shutDown_of_written {w : Work} (h : w.state.nextFlush.fault? = none) :
    w.shutDown =
      ({ exchange := w.exchange.send (.page 200 Page.exiting)
         state :=
          { w.state with
            registry := w.state.registry.closeAll.1
            store := w.state.store.flush.1
            flushes := w.state.flushes.tail }
         journal :=
          w.journal ++ [.shutdownRequested w.exchange.conn] ++ w.state.registry.closeAll.2 ++
            [w.state.store.flush.2]
         tasks := w.tasks ++ [.releaseNetwork] }, none) := by
  have written :=
    State.flush_of_written (s := { w.state with registry := w.state.registry.closeAll.1 }) h
  simp only [shutDown, send, note, written]

end Work

/-! ## Commands -/

namespace Work

variable (setup : Setup) (now : UInt64) (w : Work) (c : Command)

/-- A command sends the replies of its course and ends with its ending. -/
theorem run_course :
    (w.run setup now c).1.exchange =
        w.exchange.sendAll (c.course setup w.state now w.exchange).replies ∧
      (w.run setup now c).2 = (c.course setup w.state now w.exchange).ending.fault? := by
  cases c with
  | shutdown =>
    rw [run, Command.course, FlushOutcome.fault?_ending]
    cases h : w.state.nextFlush.fault? with
    | some fault => rw [shutDown_of_fault h]; exact ⟨rfl, rfl⟩
    | none => rw [shutDown_of_written h]; exact ⟨rfl, rfl⟩
  | stats =>
    simp only [run, tellStats, setup.statsText_eq, Command.course]
    cases setup.reportPanic? <;> exact ⟨rfl, rfl⟩
  | version =>
    simp only [run, tellBuild, Command.course, Setup.buildReply, List.isSuffixOf_iff_suffix]
    split <;> exact ⟨rfl, rfl⟩
  | script name actions =>
    simp only [run, Action.run_eq_course, Command.course, and_self]

/-- Only stopping the daemon moves more than the exchange. -/
theorem run_of_ne_shutdown {c : Command} (h : c ≠ .shutdown) :
    (w.run setup now c).1 = { w with exchange := (w.run setup now c).1.exchange } := by
  cases c with
  | shutdown => exact absurd rfl h
  | stats =>
    rw [run, tellStats]
    split <;> rfl
  | version =>
    rw [run, tellBuild]
    split <;> rfl
  | script name actions => rfl

/-- The verdict on a command that starts without a reply follows from its course. -/
theorem complete_eq (fresh : w.exchange.reply = none) :
    w.complete setup now c =
      ((w.run setup now c).1, (c.course setup w.state now w.exchange).verdict c.name) := by
  obtain ⟨exchange, fault⟩ := w.run_course setup now c
  generalize c.course setup w.state now w.exchange = course at exchange fault
  unfold complete
  generalize w.run setup now c = ran at exchange fault
  obtain ⟨w', fault'⟩ := ran
  dsimp only at exchange fault
  subst fault
  rw [Course.verdict]
  cases course.ending.fault? with
  | some fault => rfl
  | none =>
    dsimp only
    rw [exchange, Exchange.sendAll_eq, fresh, Option.or_none]
    by_cases silent : course.replies = [] <;> simp [silent]

end Work

/-- A dispatch that meets a command runs it and settles the verdict on its course. -/
theorem dispatch_of_command {setup : Setup} {request : Http.Request} {c : Command}
    (h : Meets setup request (.command c)) (clock : Clock) (state : State) (conn : Handle) :
    dispatch setup clock state request conn =
      ((({ exchange := { request, conn }, state } : Work).run setup clock.now c).1.settle clock
        ((c.course setup state clock.now { request, conn }).verdict c.name)).finish
          clock.elapsed := by
  rw [dispatch_of_meets h, Work.meet, Work.complete_eq _ _ _ _ rfl]

end AdminPort
