import Mathlib.Data.List.Infix
import AdminPort.Serving

/-!
# How serving ends

A server goes through what happens to it and through the times that it is woken.
These come in any order: much can happen before the server is woken for the first
time or between two wakings, and a waking may find nothing new. What is there to be
found is read off the history alone:

* the server is drained when it was told to close and every connection that it
  accepted is finished;
* the grace period begins when the server is first woken after a release, and is
  over when its timer has run out since.

The first waking that finds one of the two ends serving, and nothing else does. If
both are found together the server counts as drained.

Results:
1. `drained_iff_count_eq`: what drained is where connections are accepted first.
2. `follows_or_stopped_run`: a server against its history.
3. `concluded_run`: when serving ends, and what it writes down.
4. `alike_run`: what is picked when two things are found together makes no difference.
5. `concludedPromptly_run`: when serving ends if everything that happens wakes it.
6. `serving_ends`: all of it.
-/

namespace AdminPort

namespace Serving

/-! ## Definitions -/

/-- What a server goes through. -/
inductive Move where
  /-- Something happens to it. -/
  | happens (event : ServingEvent)
  /-- It is woken and looks at what has happened. -/
  | wakes (pick : ServingPick)
deriving DecidableEq, Repr

/-- The server after a move. -/
def move (graceMillis : Nat) (s : Serving) : Move → Serving
  | .happens event => s.receive event
  | .wakes pick => s.wake graceMillis pick

/-- A server after moves in order. -/
def run (graceMillis : Nat) (moves : List Move) : Serving := moves.foldl (move graceMillis) {}

/-- What happens in a move, if anything does. -/
def Move.event? : Move → Option ServingEvent
  | happens event => some event
  | wakes _ => none

/-- What has happened in moves, in order. -/
def happened (moves : List Move) : List ServingEvent := moves.filterMap Move.event?

/-- `Drained events`: the server was told to close, and every connection that was
accepted is finished: from no point on were more accepted than finished. -/
def Drained (events : List ServingEvent) : Prop :=
  .toldToClose ∈ events ∧
    ∀ later, later <:+ events → later.count .accepted ≤ later.count .finished

/-- `Taken past`: the server was woken after a release. -/
def Taken (past : List Move) : Prop :=
  ∃ before pick, before ++ [.wakes pick] <+: past ∧ .released ∈ happened before

/-- `GraceOver past`: the grace period is over. It had begun when its timer ran out. -/
def GraceOver (past : List Move) : Prop :=
  ∃ before, before ++ [.happens .graceOver] <+: past ∧ Taken before

/-- `Due past`: a waking that comes now finds the end of serving. -/
def Due (past : List Move) : Prop := Drained (happened past) ∨ GraceOver past

/-- `Ended moves`: one of the wakings found the end of serving. -/
def Ended (moves : List Move) : Prop :=
  ∃ past pick, past ++ [.wakes pick] <+: moves ∧ Due past

/-- `TimedOut moves`: the first waking that found the end of serving found the grace
period over and connections that were not finished. -/
def TimedOut (moves : List Move) : Prop :=
  ∃ past pick, past ++ [.wakes pick] <+: moves ∧
    ¬ Ended past ∧ ¬ Drained (happened past) ∧ GraceOver past

/-- Moves that differ at most in what is picked. -/
def SameButPicks : List Move → List Move → Prop :=
  List.Forall₂ fun m m' => m = m' ∨ ∃ pick pick', m = .wakes pick ∧ m' = .wakes pick'

/-- A server that is woken for the first time after some events, and then by each. -/
def promptly (early : List ServingEvent) (first : ServingPick)
    (later : List (ServingEvent × ServingPick)) : List Move :=
  early.map .happens ++ [.wakes first] ++
    later.flatMap fun (event, pick) => [.happens event, .wakes pick]

/-- `DrainedIn early events`: before all of the events, or after some, the server was
drained. -/
def DrainedIn (early events : List ServingEvent) : Prop :=
  ∃ past, past <+: events ∧ Drained (early ++ past)

/-- `GraceEndsIn early events`: the timer ran out among the events, after a release. -/
def GraceEndsIn (early events : List ServingEvent) : Prop :=
  ∃ past, past ++ [.graceOver] <+: events ∧ .released ∈ early ++ past

/-! ## Histories -/

section

variable {past : List Move} {event : ServingEvent} {pick : ServingPick}

@[simp]
theorem happened_append (past later : List Move) :
    happened (past ++ later) = happened past ++ happened later :=
  List.filterMap_append

@[simp]
theorem happened_happens (event : ServingEvent) : happened [.happens event] = [event] := rfl

@[simp]
theorem happened_wakes (pick : ServingPick) : happened [.wakes pick] = [] := rfl

/-- Where no connection is finished before it is accepted, all that were accepted are
finished if as many are. -/
theorem drained_iff_count_eq {events : List ServingEvent}
    (ordered : ∀ past, past <+: events → past.count .finished ≤ past.count .accepted) :
    Drained events ↔ .toldToClose ∈ events ∧ events.count .accepted = events.count .finished := by
  refine and_congr_right fun _ => ⟨fun all => ?_, ?_⟩
  · exact Nat.le_antisymm (all events List.suffix_rfl) (ordered events List.prefix_rfl)
  · rintro same later ⟨past, rfl⟩
    have := ordered past (List.prefix_append _ _)
    simp only [List.count_append] at same
    omega

theorem concat_prefix_concat {α : Type} {l past : List α} {a b : α} :
    l ++ [a] <+: past ++ [b] ↔ (l = past ∧ a = b) ∨ l ++ [a] <+: past := by
  simp [List.prefix_concat_iff]

theorem released_of_taken (h : Taken past) : .released ∈ happened past := by
  obtain ⟨before, pick, ⟨later, rfl⟩, released⟩ := h
  simp [released]

theorem taken_happens_iff : Taken (past ++ [.happens event]) ↔ Taken past := by
  simp [Taken, concat_prefix_concat]

theorem taken_wakes_iff : Taken (past ++ [.wakes pick]) ↔ .released ∈ happened past := by
  constructor
  · intro h
    simpa using released_of_taken h
  · exact fun released => ⟨past, pick, List.prefix_rfl, released⟩

theorem not_taken_nil : ¬ Taken [] := by
  simp [Taken]

theorem taken_of_graceOver (h : GraceOver past) : Taken past := by
  obtain ⟨before, begun, before', pick, started, released⟩ := h
  exact ⟨before', pick, started.trans ((List.prefix_append _ _).trans begun), released⟩

theorem graceOver_happens_iff :
    GraceOver (past ++ [.happens event]) ↔
      GraceOver past ∨ event = .graceOver ∧ Taken past := by
  simp only [GraceOver, concat_prefix_concat]
  constructor
  · rintro ⟨before, ⟨rfl, same⟩ | begun, taken⟩
    · exact .inr ⟨(Move.happens.inj same).symm, taken⟩
    · exact .inl ⟨before, begun, taken⟩
  · rintro (⟨before, begun, taken⟩ | ⟨rfl, taken⟩)
    · exact ⟨before, .inr begun, taken⟩
    · exact ⟨past, .inl ⟨rfl, rfl⟩, taken⟩

theorem graceOver_wakes_iff : GraceOver (past ++ [.wakes pick]) ↔ GraceOver past := by
  simp [GraceOver, concat_prefix_concat]

theorem not_graceOver_nil : ¬ GraceOver [] := by
  simp [GraceOver]

theorem not_ended_nil : ¬ Ended [] := by
  simp [Ended]

theorem ended_happens_iff : Ended (past ++ [.happens event]) ↔ Ended past := by
  simp [Ended, concat_prefix_concat]

theorem ended_wakes_iff : Ended (past ++ [.wakes pick]) ↔ Ended past ∨ Due past := by
  simp only [Ended, concat_prefix_concat]
  constructor
  · rintro ⟨before, pick', ⟨rfl, -⟩ | earlier, due⟩
    · exact .inr due
    · exact .inl ⟨before, pick', earlier, due⟩
  · rintro (⟨before, pick', earlier, due⟩ | due)
    · exact ⟨before, pick', .inr earlier, due⟩
    · exact ⟨past, pick, .inl ⟨rfl, rfl⟩, due⟩

theorem ended_of_timedOut (h : TimedOut past) : Ended past := by
  obtain ⟨before, pick, earlier, -, -, late⟩ := h
  exact ⟨before, pick, earlier, .inr late⟩

theorem timedOut_happens_iff : TimedOut (past ++ [.happens event]) ↔ TimedOut past := by
  simp [TimedOut, concat_prefix_concat]

theorem timedOut_wakes_iff :
    TimedOut (past ++ [.wakes pick]) ↔
      TimedOut past ∨ ¬ Ended past ∧ ¬ Drained (happened past) ∧ GraceOver past := by
  simp only [TimedOut, concat_prefix_concat]
  constructor
  · rintro ⟨before, pick', ⟨rfl, -⟩ | earlier, first⟩
    · exact .inr first
    · exact .inl ⟨before, pick', earlier, first⟩
  · rintro (⟨before, pick', earlier, first⟩ | first)
    · exact ⟨before, pick', .inr earlier, first⟩
    · exact ⟨past, pick, .inl ⟨rfl, rfl⟩, first⟩

end

/-! ## What is recorded -/

section

variable (graceMillis : Nat) (moves : List Move)

@[simp]
theorem run_nil : run graceMillis [] = {} := rfl

theorem run_concat (m : Move) :
    run graceMillis (moves ++ [m]) = (run graceMillis moves).move graceMillis m := by
  simp [run]

theorem drain_frame (s : Serving) :
    s.drain graceMillis =
      { s with
        phase := (s.drain graceMillis).phase
        journal := (s.drain graceMillis).journal } := by
  simp only [drain, stop]
  split
  · rfl
  · split <;> rfl

/-- A waking changes nothing of what is recorded, but that it takes a release. -/
theorem wake_frame (s : Serving) (pick : ServingPick) :
    s.wake graceMillis pick =
      { s with
        released := (s.wake graceMillis pick).released
        phase := (s.wake graceMillis pick).phase
        journal := (s.wake graceMillis pick).journal } := by
  cases phase : s.phase with
  | stopped => rw [wake_stopped phase]
  | draining =>
    have drains : s.wake graceMillis pick = s.drain graceMillis := by simp only [wake, phase]
    rw [drains, drain_frame]
  | «open» =>
    simp only [wake, phase]
    split
    · rfl
    · split
      · rw [drain_frame]
      · rfl

theorem closing_run_iff :
    (run graceMillis moves).closing = true ↔ .toldToClose ∈ happened moves := by
  induction moves using List.reverseRecOn with
  | nil => simp [happened]
  | append_singleton moves m ih =>
    rw [run_concat, happened_append, List.mem_append, ← ih]
    cases m with
    | wakes pick =>
      rw [move, wake_frame]
      simp
    | happens event =>
      cases event with
      | graceOver =>
        simp only [move, receive]
        split <;> simp
      | _ => simp [move, receive]

theorem forall_suffix_concat {α : Type} {l : List α} {a : α} {P : List α → Prop} :
    (∀ later, later <:+ l ++ [a] → P later) ↔ P [] ∧ ∀ later, later <:+ l → P (later ++ [a]) := by
  simp only [List.suffix_concat_iff]
  constructor
  · intro all
    exact ⟨all [] (.inl rfl), fun later tail => all _ (.inr ⟨later, rfl, tail⟩)⟩
  · rintro ⟨empty, all⟩ later (rfl | ⟨later, rfl, tail⟩)
    · exact empty
    · exact all later tail

/-- The connections that are open are the most by which the accepted ones exceed the
finished ones from some point on. -/
theorem connections_run_le_iff (k : Nat) :
    (run graceMillis moves).connections ≤ k ↔
      ∀ later, later <:+ happened moves → later.count .accepted ≤ later.count .finished + k := by
  induction moves using List.reverseRecOn generalizing k with
  | nil => simp [happened]
  | append_singleton moves m ih =>
    rw [run_concat, happened_append]
    cases m with
    | wakes pick =>
      rw [move, wake_frame]
      simpa using ih k
    | happens event =>
      rw [happened_happens, forall_suffix_concat]
      simp only [List.count_append, List.count_nil]
      cases event with
      | accepted =>
        cases k with
        | zero =>
          refine iff_of_false (Nat.not_succ_le_zero _) ?_
          rintro ⟨-, all⟩
          simpa using all [] (List.nil_suffix)
        | succ k => simpa [move, receive, ← Nat.add_assoc] using ih k
      | finished =>
        have := ih (k + 1)
        simpa [move, receive, Nat.add_assoc, Nat.add_comm 1] using this
      | graceOver =>
        simp only [move, receive]
        split <;> simpa using ih k
      | _ => simpa [move, receive] using ih k

theorem isDrained_run_iff :
    (run graceMillis moves).isDrained = true ↔ Drained (happened moves) := by
  rw [isDrained, Bool.and_eq_true, beq_iff_eq, closing_run_iff, Drained, ← Nat.le_zero,
    connections_run_le_iff]
  rfl

end

/-! ## What a waking does -/

section

variable (graceMillis : Nat) {s : Serving} (pick : ServingPick)

@[simp]
theorem phase_receive (event : ServingEvent) : (s.receive event).phase = s.phase := by
  cases event with
  | graceOver => simp only [receive]; split <;> rfl
  | _ => rfl

/-- A server that is found drained stops, whatever else is found and picked. -/
theorem wake_of_drained (running : s.phase ≠ .stopped) (drained : s.isDrained = true) :
    (s.wake graceMillis pick).phase = .stopped ∧
      (s.wake graceMillis pick).journal = s.journal ++ [.serverStopped] := by
  have still : ({ s with released := false, phase := .draining } : Serving).isDrained = true :=
    drained
  cases phase : s.phase with
  | stopped => exact absurd phase running
  | draining => simp [wake, phase, drain, drained, stop]
  | «open» =>
    simp only [wake, phase, drained, drain, still]
    cases s.released <;> cases pick <;> simp [stop]

/-- Whatever comes, a server that has stopped stays stopped and writes nothing more. -/
theorem move_stopped (stopped : s.phase = .stopped) (m : Move) :
    (s.move graceMillis m).phase = .stopped ∧ (s.move graceMillis m).journal = s.journal := by
  cases m with
  | happens event => simp [move, stopped]
  | wakes pick => simp [move, wake_stopped stopped, stopped]

theorem wake_of_open (waiting : s.phase = .open) (undrained : s.isDrained = false)
    (early : s.graceOver = false) :
    s.wake graceMillis pick =
      if s.released then { s with released := false, phase := .draining } else s := by
  have still : ({ s with released := false, phase := .draining } : Serving).isDrained = false :=
    undrained
  simp only [wake, waiting, undrained, drain, still, Bool.false_and, Bool.false_eq_true, if_false]
  simp only [early, Bool.false_eq_true, if_false]

theorem wake_of_draining (draining : s.phase = .draining) (undrained : s.isDrained = false) :
    s.wake graceMillis pick =
      if s.graceOver then s.stop [.drainTimedOut graceMillis] else s := by
  simp [wake, draining, drain, undrained]

end

/-! ## A server and its history -/

/-- `Follows past s`: a server that has not stopped is as its history has it.

* `waiting`: a release that has come is kept until the server is woken.
* `draining`: then it is taken, and the grace period begins.
* `graceOver`: the timer runs from there on.
* `silent`: nothing is written down before the end. -/
structure Follows (past : List Move) (s : Serving) : Prop where
  running : s.phase ≠ .stopped
  waiting : s.phase = .open → ¬ Taken past ∧ (s.released = true ↔ .released ∈ happened past)
  draining : s.phase = .draining → Taken past
  graceOver : s.graceOver = true ↔ GraceOver past
  silent : s.journal = []

namespace Follows

variable (graceMillis : Nat) {past : List Move} {s : Serving}

theorem happens (h : Follows past s) (event : ServingEvent) :
    Follows (past ++ [.happens event]) (s.receive event) where
  running := by
    rw [phase_receive]
    exact h.running
  waiting waits := by
    rw [phase_receive] at waits
    obtain ⟨untaken, kept⟩ := h.waiting waits
    rw [taken_happens_iff]
    refine ⟨untaken, ?_⟩
    cases event <;> simp [receive, kept, waits]
  draining drains := taken_happens_iff.2 (h.draining (phase_receive event ▸ drains))
  graceOver := by
    rw [graceOver_happens_iff, ← h.graceOver]
    cases event with
    | graceOver =>
      -- the timer runs exactly while the server is draining
      cases phase : s.phase with
      | «open» => simp [receive, phase, (h.waiting phase).1]
      | draining => simp [receive, phase, h.draining phase]
      | stopped => exact absurd phase h.running
    | _ => simp [receive]
  silent := by
    rw [journal_receive]
    exact h.silent

/-- A waking that does not find the end of serving at most takes a release. -/
theorem wakes (h : Follows past s) (undrained : s.isDrained = false) (early : ¬ GraceOver past)
    (pick : ServingPick) : Follows (past ++ [.wakes pick]) (s.wake graceMillis pick) := by
  have timer : s.graceOver = false := by rwa [← Bool.not_eq_true, h.graceOver]
  have still : ¬ GraceOver (past ++ [.wakes pick]) := mt graceOver_wakes_iff.1 early
  cases phase : s.phase with
  | stopped => exact absurd phase h.running
  | «open» =>
    obtain ⟨untaken, kept⟩ := h.waiting phase
    rw [wake_of_open graceMillis pick phase undrained timer]
    cases released : s.released with
    | true =>
      exact {
        running := by simp
        waiting := by simp
        draining := fun _ => taken_wakes_iff.2 (kept.1 released)
        graceOver := by simp [timer, still]
        silent := h.silent }
    | false =>
      have unreleased : .released ∉ happened past := by simp [← kept, released]
      exact {
        running := h.running
        waiting := fun _ => by simp [taken_wakes_iff, unreleased, released]
        draining := fun drains => by simp [phase] at drains
        graceOver := by simp [timer, still]
        silent := h.silent }
  | draining =>
    rw [wake_of_draining graceMillis pick phase undrained, timer]
    exact {
      running := h.running
      waiting := fun waits => by simp [phase] at waits
      draining := fun _ => taken_wakes_iff.2 (released_of_taken (h.draining phase))
      graceOver := by simp [timer, still]
      silent := h.silent }

/-- A waking that finds the grace period over ends serving, with a warning. -/
theorem wakes_late (h : Follows past s) (undrained : s.isDrained = false) (late : GraceOver past)
    (pick : ServingPick) :
    (s.wake graceMillis pick).phase = .stopped ∧
      (s.wake graceMillis pick).journal = [.drainTimedOut graceMillis, .serverStopped] := by
  have drains : s.phase = .draining := by
    cases phase : s.phase with
    | stopped => exact absurd phase h.running
    | «open» => exact absurd (taken_of_graceOver late) (h.waiting phase).1
    | draining => rfl
  rw [wake_of_draining graceMillis pick drains undrained, h.graceOver.2 late]
  simp [stop, h.silent]

end Follows

section

variable (graceMillis : Nat) (moves : List Move)

/-- A server is as its history has it, or has stopped as its history has it. -/
theorem follows_or_stopped_run :
    let s := run graceMillis moves
    (¬ Ended moves ∧ Follows moves s) ∨
      (Ended moves ∧ s.phase = .stopped ∧
        ((TimedOut moves ∧ s.journal = [.drainTimedOut graceMillis, .serverStopped]) ∨
          (¬ TimedOut moves ∧ s.journal = [.serverStopped]))) := by
  induction moves using List.reverseRecOn with
  | nil =>
    refine .inl ⟨not_ended_nil, ?_⟩
    constructor <;> simp [not_taken_nil, not_graceOver_nil, happened]
  | append_singleton moves m ih =>
    have drained := isDrained_run_iff graceMillis moves
    rw [run_concat]
    generalize run graceMillis moves = s at ih drained
    obtain ⟨unended, follows⟩ | ⟨ended, stopped, journal⟩ := ih
    · cases m with
      | happens event => exact .inl ⟨mt ended_happens_iff.1 unended, follows.happens event⟩
      | wakes pick =>
        have untimed : ¬ TimedOut moves := mt ended_of_timedOut unended
        rw [ended_wakes_iff, timedOut_wakes_iff, Due, ← drained]
        cases found : s.isDrained with
        | true =>
          obtain ⟨stopped, journal⟩ :=
            wake_of_drained graceMillis pick follows.running found
          rw [follows.silent] at journal
          exact .inr ⟨by simp, stopped, .inr ⟨by simp [untimed], journal⟩⟩
        | false =>
          by_cases late : GraceOver moves
          · obtain ⟨stopped, journal⟩ :=
              follows.wakes_late graceMillis found late pick
            exact .inr ⟨by simp [late], stopped, .inl ⟨by simp [unended, late], journal⟩⟩
          · exact .inl ⟨by simp [unended, late], follows.wakes graceMillis found late pick⟩
    · obtain ⟨still, same⟩ := move_stopped graceMillis stopped m
      rw [← same] at journal
      cases m with
      | happens event =>
        rw [ended_happens_iff, timedOut_happens_iff]
        exact .inr ⟨ended, still, journal⟩
      | wakes pick =>
        rw [ended_wakes_iff, timedOut_wakes_iff]
        exact .inr ⟨.inl ended, still, by simpa [ended] using journal⟩

/-- `Concluded moves s`: how serving ends in a history.

* `returned`: at the first waking that finds the server drained or the grace period
  over, and not before.
* `reason`: so there was a release, or the server was drained.
* `timedOut`: the warning is given exactly if connections were not finished.
* `last`: the last entry is that the server has stopped; before there is none. -/
structure Concluded (moves : List Move) (s : Serving) : Prop where
  returned : s.phase = .stopped ↔
    ∃ past pick, past ++ [.wakes pick] <+: moves ∧ (Drained (happened past) ∨ GraceOver past)
  reason : s.phase = .stopped →
    ∃ past, past <+: moves ∧ (.released ∈ happened past ∨ Drained (happened past))
  timedOut : (∃ entry ∈ s.journal, entry.message = "in-flight requests did not drain in time") ↔
    TimedOut moves
  last : if s.phase = .stopped
    then s.journal.getLast?.map Journal.Entry.message = some "tsdadmin-server stopped"
    else s.journal = []

theorem concluded_run : Concluded moves (run graceMillis moves) := by
  obtain ⟨unended, follows⟩ | ⟨ended, stopped, journal⟩ := follows_or_stopped_run graceMillis moves
  · have running := follows.running
    have untimed : ¬ TimedOut moves := mt ended_of_timedOut unended
    exact {
      returned := iff_of_false running unended
      reason := fun stopped => absurd stopped running
      timedOut := by simp [follows.silent, untimed]
      last := by simp [running, follows.silent] }
  · refine {
      returned := iff_of_true stopped ended
      reason := fun _ => ?_
      timedOut := ?_
      last := ?_ }
    · obtain ⟨past, pick, earlier, drained | late⟩ := ended
      · exact ⟨past, (List.prefix_append _ _).trans earlier, .inr drained⟩
      · exact ⟨past, (List.prefix_append _ _).trans earlier,
          .inl (released_of_taken (taken_of_graceOver late))⟩
    · obtain ⟨timedOut, journal⟩ | ⟨untimed, journal⟩ := journal
      · simp [journal, timedOut, Journal.Entry.message]
      · simp [journal, untimed, Journal.Entry.message]
    · obtain ⟨-, journal⟩ | ⟨-, journal⟩ := journal <;>
        simp [stopped, journal, Journal.Entry.message]

end

/-! ## What is picked -/

/-- `Alike s s'`: two servers are the same, or have both stopped and written the same. -/
def Alike (s s' : Serving) : Prop :=
  s = s' ∨ s.phase = .stopped ∧ s'.phase = .stopped ∧ s.journal = s'.journal

section

variable {s s' : Serving}

theorem Alike.phase (h : Alike s s') : s.phase = s'.phase := by
  obtain rfl | ⟨stopped, stopped', -⟩ := h
  · rfl
  · rw [stopped, stopped']

theorem Alike.journal (h : Alike s s') : s.journal = s'.journal := by
  obtain rfl | ⟨-, -, journal⟩ := h
  · rfl
  · exact journal

theorem alike_wake (graceMillis : Nat) (s : Serving) (pick pick' : ServingPick) :
    Alike (s.wake graceMillis pick) (s.wake graceMillis pick') := by
  by_cases stopped : s.phase = .stopped
  · rw [wake_stopped stopped, wake_stopped stopped]
    exact .inl rfl
  · cases drained : s.isDrained with
    | true =>
      obtain ⟨ends, journal⟩ := wake_of_drained graceMillis pick stopped drained
      obtain ⟨ends', journal'⟩ := wake_of_drained graceMillis pick' stopped drained
      exact .inr ⟨ends, ends', by rw [journal, journal']⟩
    | false =>
      left
      simp [wake, drained]

theorem Alike.move (graceMillis : Nat) {m m' : Move}
    (picks : m = m' ∨ ∃ pick pick', m = .wakes pick ∧ m' = .wakes pick') (h : Alike s s') :
    Alike (s.move graceMillis m) (s'.move graceMillis m') := by
  obtain rfl | ⟨stopped, stopped', journal⟩ := h
  · obtain rfl | ⟨pick, pick', rfl, rfl⟩ := picks
    · exact .inl rfl
    · exact alike_wake graceMillis s pick pick'
  · obtain ⟨still, same⟩ := move_stopped graceMillis stopped m
    obtain ⟨still', same'⟩ := move_stopped graceMillis stopped' m'
    exact .inr ⟨still, still', by rw [same, same', journal]⟩

/-- What is picked when drained connections and a release are found together makes no
difference. -/
theorem alike_run (graceMillis : Nat) {moves moves' : List Move} (h : SameButPicks moves moves') :
    Alike (run graceMillis moves) (run graceMillis moves') := by
  suffices ∀ s s', Alike s s' →
      Alike (moves.foldl (move graceMillis) s) (moves'.foldl (move graceMillis) s') from
    this _ _ (.inl rfl)
  induction h with
  | nil => exact fun _ _ alike => alike
  | cons same _ ih => exact fun _ _ alike => ih _ _ (alike.move graceMillis same)

end

/-! ## A server that is woken by everything that happens -/

section

variable {early : List ServingEvent} {first : ServingPick}
  {later : List (ServingEvent × ServingPick)}

theorem promptly_concat (last : ServingEvent × ServingPick) :
    promptly early first (later ++ [last]) =
      promptly early first later ++ [.happens last.1] ++ [.wakes last.2] := by
  simp [promptly]

theorem happened_map_happens (events : List ServingEvent) :
    happened (events.map .happens) = events := by
  simp [happened, Function.comp_def, Move.event?]

@[simp]
theorem happened_promptly :
    happened (promptly early first later) = early ++ later.map Prod.fst := by
  induction later using List.reverseRecOn with
  | nil => simp [promptly, happened_map_happens]
  | append_singleton later last ih =>
    simp only [promptly_concat, happened_append, happened_happens, happened_wakes, ih]
    simp

theorem not_taken_map_happens (events : List ServingEvent) : ¬ Taken (events.map .happens) := by
  induction events using List.reverseRecOn with
  | nil => exact not_taken_nil
  | append_singleton events event ih =>
    rw [List.map_append, List.map_singleton, taken_happens_iff]
    exact ih

theorem not_ended_map_happens (events : List ServingEvent) : ¬ Ended (events.map .happens) := by
  induction events using List.reverseRecOn with
  | nil => exact not_ended_nil
  | append_singleton events event ih =>
    rw [List.map_append, List.map_singleton, ended_happens_iff]
    exact ih

theorem drainedIn_concat_iff {events : List ServingEvent} {event : ServingEvent} :
    DrainedIn early (events ++ [event]) ↔
      DrainedIn early events ∨ Drained (early ++ (events ++ [event])) := by
  simp only [DrainedIn, List.prefix_concat_iff, or_and_right, exists_or, exists_eq_left]
  exact or_comm

theorem graceEndsIn_concat_iff {events : List ServingEvent} {event : ServingEvent} :
    GraceEndsIn early (events ++ [event]) ↔
      GraceEndsIn early events ∨ event = .graceOver ∧ .released ∈ early ++ events := by
  simp only [GraceEndsIn, concat_prefix_concat, or_and_right, exists_or, and_assoc,
    exists_eq_left]
  rw [or_comm, eq_comm]

theorem drained_concat_graceOver {events : List ServingEvent} :
    Drained (events ++ [.graceOver]) ↔ Drained events := by
  simp [Drained, forall_suffix_concat]

theorem taken_promptly_iff :
    Taken (promptly early first later) ↔ .released ∈ early ++ later.map Prod.fst := by
  cases later using List.reverseRecOn with
  | nil => simp [promptly, taken_wakes_iff, happened_map_happens]
  | append_singleton later last =>
    rw [promptly_concat, taken_wakes_iff]
    simp

theorem graceOver_promptly_iff :
    GraceOver (promptly early first later) ↔ GraceEndsIn early (later.map Prod.fst) := by
  induction later using List.reverseRecOn with
  | nil =>
    have untaken := mt taken_of_graceOver (not_taken_map_happens early)
    simp [promptly, graceOver_wakes_iff, untaken, GraceEndsIn]
  | append_singleton later last ih =>
    rw [promptly_concat, graceOver_wakes_iff, graceOver_happens_iff, ih, taken_promptly_iff,
      List.map_append, List.map_singleton, graceEndsIn_concat_iff]

theorem drained_promptly_happens_iff {event : ServingEvent} :
    Drained (happened (promptly early first later ++ [.happens event])) ↔
      Drained (early ++ (later.map Prod.fst ++ [event])) := by
  rw [happened_append, happened_promptly, happened_happens, List.append_assoc]

/-- A server that is woken by everything ends serving as soon as it is drained, or with
the first end of the grace period after a release. -/
theorem ended_promptly_iff :
    Ended (promptly early first later) ↔
      DrainedIn early (later.map Prod.fst) ∨ GraceEndsIn early (later.map Prod.fst) := by
  induction later using List.reverseRecOn with
  | nil =>
    have unended := not_ended_map_happens early
    have untaken := mt taken_of_graceOver (not_taken_map_happens early)
    simp [promptly, ended_wakes_iff, unended, Due, untaken, happened_map_happens, DrainedIn,
      GraceEndsIn]
  | append_singleton later last ih =>
    rw [promptly_concat, ended_wakes_iff, ended_happens_iff, ih, Due, drained_promptly_happens_iff,
      graceOver_happens_iff, graceOver_promptly_iff, taken_promptly_iff, List.map_append,
      List.map_singleton, drainedIn_concat_iff, graceEndsIn_concat_iff]
    tauto

theorem timedOut_promptly_iff :
    TimedOut (promptly early first later) ↔
      ∃ past, past ++ [.graceOver] <+: later.map Prod.fst ∧ .released ∈ early ++ past ∧
        ¬ DrainedIn early past := by
  induction later using List.reverseRecOn with
  | nil =>
    have untimed := mt ended_of_timedOut (not_ended_map_happens early)
    have untaken := mt taken_of_graceOver (not_taken_map_happens early)
    simp [promptly, timedOut_wakes_iff, untimed, untaken]
  | append_singleton later last ih =>
    rw [promptly_concat, timedOut_wakes_iff, timedOut_happens_iff, ended_happens_iff, ih,
      ended_promptly_iff, drained_promptly_happens_iff, graceOver_happens_iff,
      graceOver_promptly_iff, taken_promptly_iff, List.map_append, List.map_singleton]
    simp only [concat_prefix_concat]
    generalize later.map Prod.fst = events
    constructor
    · rintro (⟨past, earlier, first⟩ | ⟨unended, -, late⟩)
      · exact ⟨past, .inr earlier, first⟩
      · obtain ⟨undrained, before⟩ := not_or.1 unended
        obtain ⟨late, released⟩ := late.resolve_left before
        exact ⟨events, .inl ⟨rfl, late.symm⟩, released, undrained⟩
    · rintro ⟨past, ⟨rfl, late⟩ | earlier, released, undrained⟩
      · -- the timer may have run out before
        by_cases before : GraceEndsIn early past
        · obtain ⟨past', earlier, released'⟩ := before
          refine .inl ⟨past', earlier, released', ?_⟩
          rintro ⟨past'', within, drained⟩
          exact undrained
            ⟨past'', within.trans ((List.prefix_append _ _).trans earlier), drained⟩
        · refine .inr ⟨not_or.2 ⟨undrained, before⟩, ?_, .inr ⟨late.symm, released⟩⟩
          rw [← late, ← List.append_assoc, drained_concat_graceOver]
          exact fun drained => undrained ⟨past, List.prefix_rfl, drained⟩
      · exact .inl ⟨past, earlier, released, undrained⟩

end

/-! ## Main result -/

/-- `ConcludedPromptly early events s`: how serving ends for a server that is
woken for the first time after the early events, and then by each of the others.

* `returned`: as soon as it is drained, or, after a release, with the end of the grace
  period; whichever is earlier.
* `timedOut`: the warning is given exactly if the grace period ended first. -/
structure ConcludedPromptly (early events : List ServingEvent) (s : Serving) : Prop where
  returned : s.phase = .stopped ↔ DrainedIn early events ∨ GraceEndsIn early events
  timedOut : (∃ entry ∈ s.journal, entry.message = "in-flight requests did not drain in time") ↔
    ∃ past, past ++ [.graceOver] <+: events ∧ .released ∈ early ++ past ∧ ¬ DrainedIn early past

theorem concludedPromptly_run (graceMillis : Nat) (early : List ServingEvent)
    (first : ServingPick) (later : List (ServingEvent × ServingPick)) :
    ConcludedPromptly early (later.map Prod.fst)
      (run graceMillis (promptly early first later)) := by
  have concluded := concluded_run graceMillis (promptly early first later)
  constructor
  · exact concluded.returned.trans ended_promptly_iff
  · exact concluded.timedOut.trans timedOut_promptly_iff

/-- Serving ends for a reason only, and in the same way whatever is picked when two
reasons are found together. The last entry of the journal is that the server stopped. -/
theorem serving_ends (graceMillis : Nat) :
    (∀ moves, Concluded moves (run graceMillis moves)) ∧
      (∀ early first later, ConcludedPromptly early (later.map Prod.fst)
        (run graceMillis (promptly early first later))) ∧
      ∀ moves moves', SameButPicks moves moves' →
        (run graceMillis moves).phase = (run graceMillis moves').phase ∧
          (run graceMillis moves).journal = (run graceMillis moves').journal :=
  ⟨concluded_run graceMillis, concludedPromptly_run graceMillis,
    fun _ _ same => ⟨(alike_run graceMillis same).phase, (alike_run graceMillis same).journal⟩⟩

/-- A release that comes before the first waking, and is found together with drained
connections. -/
def exMoves (pick : ServingPick) : List Move :=
  [.happens .released, .happens .toldToClose, .wakes pick]

/-- An open connection and a release come before the first waking. Then the grace period
ends. -/
def exLate : List Move := promptly [.accepted, .released] .drained [(.graceOver, .drained)]

theorem serving_ends_exMoves :
    SameButPicks (exMoves .drained) (exMoves .release) ∧
      (run 3000 (exMoves .drained)).journal = (run 3000 (exMoves .release)).journal ∧
      (run 3000 (exMoves .release)).phase = .stopped ∧
      ∃ entry ∈ (run 3000 exLate).journal,
        entry.message = "in-flight requests did not drain in time" := by
  obtain ⟨concluded, promptly, picks⟩ := serving_ends 3000
  have same : SameButPicks (exMoves .drained) (exMoves .release) := by
    simp [SameButPicks, exMoves]
  have drained : Drained [.released, .toldToClose] :=
    (isDrained_run_iff 3000 [.happens .released, .happens .toldToClose]).1 rfl
  have found : ∃ past pick, past ++ [.wakes pick] <+: exMoves .release ∧ Due past :=
    ⟨[.happens .released, .happens .toldToClose], .release, List.prefix_rfl, .inl drained⟩
  have undrained : ¬ DrainedIn [.accepted, .released] [] := by simp [DrainedIn, Drained]
  refine ⟨same, (picks _ _ same).2, (concluded _).returned.2 found, ?_⟩
  exact (promptly _ _ _).timedOut.2 ⟨[], List.prefix_rfl, by simp, undrained⟩

end Serving

end AdminPort
