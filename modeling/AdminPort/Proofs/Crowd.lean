import AdminPort.Proofs.Counters
import AdminPort.Proofs.Percentile

/-!
# Requests that are worked on at once

Execution units share the state of the daemon, and each of them works on a request of
its own. What one of them does without the others coming between is a turn: it runs the
command, or settles the verdict, or counts the query with the time that it took. The
statistics are the one command that takes more than a turn, for it reads the counters one
by one while the others go on. A schedule says whose turn is when.

Results:
1. `isException_route`: a verdict is an exception exactly if the command ran into an
   unclassified failure.
2. `turn_next`: what a turn can do, once for all that follows.
3. `step_cases`: a turn changes the request whose turn it is and the state.
4. `counter_step`, `latency_step`, `failed_step`: what a turn moves on the counters.
-/

namespace AdminPort

/-! ## Definitions -/

namespace Setup

/-- What calls on the collector come to. -/
def bodyOf (setup : Setup) (now : UInt64) (calls : List Stats.Call) : String :=
  (calls.foldl Stats.Call.apply
    { base := setup.statsBase, host := setup.statsHost, timestamp := now }).text

/-- The place of the queries among the calls of the statistics: behind the host tag, the
connections and the text protocol. -/
def queriesPlace (setup : Setup) : Nat := 3 + (setup.textProtocol.filterMap (·.call?)).length

/-- The number of calls of the statistics. -/
def statsLength (setup : Setup) : Nat := setup.queriesPlace + 9

/-- The turns that are enough for any request. -/
def turns (setup : Setup) : Nat := setup.statsLength + 4

end Setup

/-- A request on its way to the daemon. -/
structure Errand where
  clock : Clock
  request : Http.Request
  conn : Handle

/-- How far a request has come. -/
inductive Phase where
  | waiting
  | reading
  | ran (w : Work) (verdict : Verdict)
  | settled (w : Work) (verdict : Verdict)
  | done (outcome : Outcome) (verdict : Verdict)

/-- How far a request has come, and the calls on the collector that it has made. -/
structure Progress where
  phase : Phase := .waiting
  read : List Stats.Call := []

namespace Phase

/-- The place of a phase in the order of phases. -/
def rank : Phase → Nat
  | waiting => 0
  | reading => 1
  | ran .. => 2
  | settled .. => 3
  | done .. => 4

/-- Whether the request is answered and its query counted. -/
def isDone (phase : Phase) : Bool := phase.rank == 4

/-- Whether the request has begun and is not done. -/
def isInFlight (phase : Phase) : Bool := 1 ≤ phase.rank && phase.rank ≤ 3

/-- Whether the command has ended in an unclassified failure. -/
def hasFailed : Phase → Bool
  | ran _ verdict | settled _ verdict | done _ verdict => CountersLemmas.isException verdict
  | _ => false

/-- Whether such a failure has been counted. -/
def isCounted (phase : Phase) : Bool := 3 ≤ phase.rank && phase.hasFailed

end Phase

/-- The turns that are left to a request at the most. -/
def Progress.left (setup : Setup) (p : Progress) : Nat :=
  match p.phase with
  | .waiting => setup.turns
  | .reading => setup.statsLength - p.read.length + 3
  | .ran .. => 2
  | .settled .. => 1
  | .done .. => 0

namespace Errand

/-- The request reads the counters: it meets the statistics, and no panic comes before them. -/
def ReadsStats (setup : Setup) (e : Errand) : Prop :=
  Meets setup e.request (.command .stats) ∧ setup.reportPanic? = none

instance (setup : Setup) (e : Errand) : Decidable (e.ReadsStats setup) :=
  inferInstanceAs (Decidable (_ ∧ _))

/-- The work on a request as it begins. -/
def work (e : Errand) (state : State) : Work :=
  { exchange := { request := e.request, conn := e.conn }, state }

/-- The text of the statistics that have been read, as it goes back to the client. -/
def told (setup : Setup) (e : Errand) (read : List Stats.Call) : Reply :=
  .plain (setup.bodyOf e.clock.now read)

/-- A turn: the state that it leaves to the others, and how far the request has come. -/
def next (setup : Setup) (state : State) (e : Errand) (p : Progress) : State × Progress :=
  match p.phase with
  | .waiting =>
    if e.ReadsStats setup then (state, { p with phase := .reading })
    else
      let (w, verdict) := (e.work state).route setup e.clock.now
      (w.state, { p with phase := .ran w verdict })
  | .reading =>
    match (setup.statsCalls state)[p.read.length]? with
    | some call => (state, { p with read := p.read ++ [call] })
    | none =>
      let w := (e.work state).send (e.told setup p.read)
      (state, { p with phase := .ran w .handled })
  | .ran w verdict =>
    let w := { w with state }.settle e.clock verdict
    (w.state, { p with phase := .settled w verdict })
  | .settled w verdict =>
    let outcome := { w with state }.finish e.clock.elapsed
    (outcome.state, { p with phase := .done outcome verdict })
  | .done _ _ => (state, p)

end Errand

/-- Requests that are worked on at once, and the state that they share. -/
structure Crowd where
  state : State
  errands : List (Errand × Progress)

namespace Crowd

/-- Requests of which none has begun. -/
def start (s : State) (errands : List Errand) : Crowd := ⟨s, errands.map (·, {})⟩

/-- A turn of the request at a place. -/
def step (setup : Setup) (c : Crowd) (turn : Nat) : Crowd :=
  match c.errands[turn]? with
  | none => c
  | some (e, p) =>
    let (state, p) := e.next setup c.state p
    ⟨state, c.errands.set turn (e, p)⟩

/-- The turns of a schedule in order. -/
def run (setup : Setup) (c : Crowd) (schedule : List Nat) : Crowd := schedule.foldl (step setup) c

/-- The turns of a schedule, each with the requests as it finds them. -/
def trace (setup : Setup) : Crowd → List Nat → List (Crowd × Nat)
  | _, [] => []
  | c, turn :: rest => (c, turn) :: trace setup (c.step setup turn) rest

/-- The number of requests whose phase has a property. -/
def count (c : Crowd) (p : Phase → Bool) : Nat := c.errands.countP (p ·.2.phase)

/-- The times that the requests which are done have taken. -/
def elapsed (c : Crowd) : List Duration :=
  (c.errands.filter (·.2.phase.isDone)).map (·.1.clock.elapsed)

/-- Whether a turn runs a command into an unclassified failure. -/
def fails (setup : Setup) (c : Crowd) (turn : Nat) : Bool :=
  match c.errands[turn]? with
  | some (e, p) =>
    p.phase.rank == 0 && decide (Unclassified setup c.state e.clock.now e.request e.conn)
  | none => false

end Crowd

/-- Requests after the turns of a schedule. -/
def Setup.interleave (setup : Setup) (s : State) (errands : List Errand) (schedule : List Nat) :
    Crowd :=
  (Crowd.start s errands).run setup schedule

/-! ## One turn -/

namespace CrowdLemmas

open CountersLemmas

section

variable {setup : Setup} {state : State} {e : Errand} {p : Progress}

theorem length_statsCalls (setup : Setup) (state : State) :
    (setup.statsCalls state).length = setup.statsLength := by
  simp [Setup.statsCalls, Setup.statsLength, Setup.queriesPlace, Registry.stats, Traffic.stats,
    Traffic.reportedPercentiles, PointStore.stats]
  omega

/-- At its place the number of queries is read as it is at that time. -/
theorem getElem?_queriesPlace (setup : Setup) (state : State) :
    (setup.statsCalls state)[setup.queriesPlace]? =
      some (.record "http.queries" state.traffic.queries) := by
  have before : (.hostTag :: state.registry.stats ++
      setup.textProtocol.filterMap (·.call?)).length = setup.queriesPlace := List.length_append
  rw [Setup.statsCalls, List.append_assoc, ← before,
    List.getElem?_append_right (Nat.le_refl _), Nat.sub_self]
  rfl

theorem isUnclassified_of_readsStats (reads : e.ReadsStats setup) (now : UInt64) :
    ¬ Unclassified setup state now e.request e.conn := by
  rw [unclassified_iff reads.1, Command.course, reads.2]
  simp [Course.isUnclassified]

theorem traffic_route (now : UInt64) (w : Work) :
    (w.route setup now).1.state.traffic = w.state.traffic := by
  obtain ⟨met, h⟩ := exists_meets setup w.exchange.request
  rw [h.route now w rfl]
  cases met with
  | command c =>
    rw [Work.meet, Work.complete]
    have kept := traffic_run setup now w c
    revert kept
    generalize w.run setup now c = ran
    obtain ⟨w', fault⟩ := ran
    cases fault with
    | some fault => exact id
    | none =>
      dsimp only
      split <;> exact id
  | _ => rfl

/-- The verdict on a command is an exception exactly if it is an unclassified failure. -/
theorem isException_route (now : UInt64) :
    isException ((e.work state).route setup now).2 =
      decide (Unclassified setup state now e.request e.conn) := by
  obtain ⟨met, h⟩ := exists_meets setup e.request
  rw [h.route now (e.work state) rfl]
  cases met with
  | command c =>
    rw [Work.meet, Work.complete_eq _ _ _ _ rfl, isException_verdict, Bool.eq_iff_iff,
      decide_eq_true_iff, unclassified_iff h]
    rfl
  | _ =>
    have other : ¬ Unclassified setup state now e.request e.conn :=
      not_unclassified h fun c command => by cases command
    rw [decide_eq_false other]
    rfl

end

/-- `Told setup e p`: once the statistics have been read they have been read in full, and the
reply is what has been read. -/
def Told (setup : Setup) (e : Errand) (p : Progress) : Prop :=
  e.ReadsStats setup →
    match p.phase with
    | .waiting | .reading => True
    | .ran w verdict | .settled w verdict =>
      verdict = .handled ∧ setup.statsLength ≤ p.read.length ∧
        w.exchange.reply = some (e.told setup p.read)
    | .done outcome _ =>
      setup.statsLength ≤ p.read.length ∧
        outcome.response = ⟨200, some "text/plain; charset=UTF-8",
          setup.bodyOf e.clock.now p.read⟩

/-- `Turn setup e s p s' p'`: what a turn can do.

* `begin`: the statistics are going to be read, and nothing has been done.
* `run`: any other command runs as a whole, and counts nothing.
* `look`: one more call is made, of the counters as they are.
* `tell`: everything has been read and is the reply.
* `settle`: an exception is counted if the verdict is one.
* `finish`: the query is counted and the request is answered.
* `rest`: nothing is left to do. -/
inductive Turn (setup : Setup) (e : Errand) (s : State) : Progress → State → Progress → Prop
  | begin {read : List Stats.Call} : e.ReadsStats setup →
      Turn setup e s ⟨.waiting, read⟩ s ⟨.reading, read⟩
  | run {read : List Stats.Call} {w : Work} {verdict : Verdict} {s' : State} :
      ¬ e.ReadsStats setup → s'.traffic = s.traffic →
      isException verdict = decide (Unclassified setup s e.clock.now e.request e.conn) →
      Turn setup e s ⟨.waiting, read⟩ s' ⟨.ran w verdict, read⟩
  | look {read : List Stats.Call} {call : Stats.Call} :
      (setup.statsCalls s)[read.length]? = some call →
      Turn setup e s ⟨.reading, read⟩ s ⟨.reading, read ++ [call]⟩
  | tell {read : List Stats.Call} {w : Work} : setup.statsLength ≤ read.length →
      w.exchange.reply = some (e.told setup read) →
      Turn setup e s ⟨.reading, read⟩ s ⟨.ran w .handled, read⟩
  | settle {read : List Stats.Call} {w w' : Work} {verdict : Verdict} {s' : State} :
      s'.traffic = (if isException verdict then s.traffic.exception else s.traffic) →
      (verdict = .handled → w'.exchange = w.exchange) →
      Turn setup e s ⟨.ran w verdict, read⟩ s' ⟨.settled w' verdict, read⟩
  | finish {read : List Stats.Call} {w : Work} {outcome : Outcome} {verdict : Verdict}
      {s' : State} : s'.traffic = s.traffic.query e.clock.elapsed →
      outcome.response = w.exchange.response →
      Turn setup e s ⟨.settled w verdict, read⟩ s' ⟨.done outcome verdict, read⟩
  | rest {read : List Stats.Call} {outcome : Outcome} {verdict : Verdict} :
      Turn setup e s ⟨.done outcome verdict, read⟩ s ⟨.done outcome verdict, read⟩

theorem turn_next (setup : Setup) (e : Errand) (s : State) (p : Progress) :
    Turn setup e s p (e.next setup s p).1 (e.next setup s p).2 := by
  obtain ⟨phase, read⟩ := p
  cases phase with
  | waiting =>
    by_cases reads : e.ReadsStats setup
    · simp only [Errand.next, reads, if_true]
      exact .begin reads
    · simp only [Errand.next, reads, if_false]
      exact .run reads (traffic_route _ _) (isException_route _)
  | reading =>
    simp only [Errand.next]
    cases found : (setup.statsCalls s)[read.length]? with
    | some call => exact .look found
    | none =>
      refine .tell ?_ rfl
      rw [← length_statsCalls setup s]
      exact List.getElem?_eq_none_iff.1 found
  | ran w verdict =>
    refine .settle (traffic_settle { w with state := s } e.clock verdict) ?_
    rintro rfl
    rfl
  | settled w verdict => exact .finish rfl rfl
  | done outcome verdict => exact .rest

section

variable {setup : Setup} {e : Errand} {s s' : State} {p p' : Progress}

theorem Turn.rank_le (h : Turn setup e s p s' p') : p.phase.rank ≤ p'.phase.rank := by
  cases h <;> simp [Phase.rank]

theorem Turn.done_le (h : Turn setup e s p s' p') :
    p.phase.isDone.toNat ≤ p'.phase.isDone.toNat := by
  cases h <;> simp [Phase.isDone, Phase.rank]

/-- The queries and the requests that are done move together. -/
theorem Turn.queries (h : Turn setup e s p s' p') :
    s'.traffic.queries + UInt64.ofNat p.phase.isDone.toNat =
      s.traffic.queries + UInt64.ofNat p'.phase.isDone.toNat := by
  cases h with
  | begin | look | tell | rest => rfl
  | run _ kept => rw [kept]; rfl
  | settle moved =>
    rw [moved]
    split <;> rfl
  | finish moved => rw [moved]; simp [Traffic.query, Phase.isDone, Phase.rank]

/-- The exceptions and the failures that are counted move together. -/
theorem Turn.exceptions (h : Turn setup e s p s' p') :
    s'.traffic.exceptions + UInt64.ofNat p.phase.isCounted.toNat =
      s.traffic.exceptions + UInt64.ofNat p'.phase.isCounted.toNat := by
  cases h with
  | begin | look | tell | rest => rfl
  | run _ kept => rw [kept]; rfl
  | settle moved =>
    rw [moved]
    split <;> simp_all [Traffic.exception, Phase.isCounted, Phase.rank, Phase.hasFailed]
  | finish moved => rw [moved]; rfl

/-- The time of a request is observed as it becomes done, and at no other turn. -/
theorem Turn.latency (h : Turn setup e s p s' p') :
    s'.traffic.latency = s.traffic.latency ∧ p'.phase.isDone = p.phase.isDone ∨
      s'.traffic.latency = s.traffic.latency.observe e.clock.elapsed ∧
        p.phase.isDone = false ∧ p'.phase.isDone = true := by
  cases h with
  | begin | look | tell | rest => exact .inl ⟨rfl, rfl⟩
  | run _ kept => exact .inl ⟨by rw [kept], rfl⟩
  | settle moved =>
    refine .inl ⟨?_, rfl⟩
    rw [moved]
    split <;> rfl
  | finish moved => exact .inr ⟨by rw [moved]; rfl, rfl, rfl⟩

/-- Calls are made one at a time, of the counters as they are. -/
theorem Turn.read (h : Turn setup e s p s' p') {k : Nat} {call : Stats.Call}
    (isRead : p'.read[k]? = some call) :
    p.read[k]? = some call ∨ p.phase = .reading ∧ (setup.statsCalls s)[k]? = some call := by
  cases h with
  | @look read _ found =>
    rw [List.getElem?_append, List.getElem?_singleton] at isRead
    split_ifs at isRead with before last
    · exact .inl isRead
    · cases isRead
      have : k = read.length := by omega
      exact .inr ⟨rfl, this ▸ found⟩
  | _ => exact .inl isRead

/-- What has been read becomes the reply and stays it. -/
theorem Turn.told (h : Turn setup e s p s' p') (told : Told setup e p) :
    Told setup e p' := by
  intro reads
  cases h with
  | begin | look => trivial
  | run other => exact absurd reads other
  | tell whole reply => exact ⟨rfl, whole, reply⟩
  | settle _ kept =>
    obtain ⟨handled, whole, reply⟩ := told reads
    exact ⟨handled, whole, kept handled ▸ reply⟩
  | finish _ response =>
    obtain ⟨-, whole, reply⟩ := told reads
    exact ⟨whole, by rw [response, Exchange.response, reply]; rfl⟩
  | rest => exact told reads

/-- Every turn brings a request closer to its end. -/
theorem Turn.left_le (h : Turn setup e s p s' p') : p'.left setup ≤ p.left setup - 1 := by
  cases h with
  | look call =>
    have := (List.getElem?_eq_some_iff.1 call).1
    rw [length_statsCalls] at this
    simp [Progress.left]
    omega
  | _ => simp [Progress.left, Setup.turns]

/-- A turn brings about a failure only by running a command into it. -/
theorem Turn.failed (h : Turn setup e s p s' p') :
    p'.phase.hasFailed.toNat = p.phase.hasFailed.toNat +
      (p.phase.rank == 0 &&
        decide (Unclassified setup s e.clock.now e.request e.conn)).toNat := by
  cases h with
  | begin reads =>
    simp [Phase.hasFailed, isUnclassified_of_readsStats reads]
  | run _ _ verdict =>
    simp only [Phase.hasFailed, verdict]
    simp [Phase.rank]
  | _ => simp [Phase.hasFailed, Phase.rank, isException]

end

/-! ## One step of the requests together -/

section

variable (setup : Setup) (c : Crowd) (turn : Nat)

/-- A turn changes the request whose turn it is and the state, and no other request. -/
theorem step_cases :
    c.errands[turn]? = none ∧ c.step setup turn = c ∨
      ∃ before e p after s' p', c.errands = before ++ (e, p) :: after ∧ turn = before.length ∧
        Turn setup e c.state p s' p' ∧
        c.step setup turn = ⟨s', before ++ (e, p') :: after⟩ := by
  unfold Crowd.step
  cases found : c.errands[turn]? with
  | none => exact .inl ⟨rfl, rfl⟩
  | some errand =>
    obtain ⟨e, p⟩ := errand
    obtain ⟨inside, here⟩ := List.getElem?_eq_some_iff.1 found
    refine .inr ⟨c.errands.take turn, e, p, c.errands.drop (turn + 1), _, _, ?_, ?_,
      turn_next setup e c.state p, ?_⟩
    · rw [← here, List.getElem_cons_drop, List.take_append_drop]
    · rw [List.length_take, Nat.min_eq_left (Nat.le_of_lt inside)]
    · exact congrArg (Crowd.mk _) (List.set_eq_take_append_cons_drop.trans (if_pos inside))

theorem count_eq {c : Crowd} {before after : List (Errand × Progress)} {e : Errand}
    {p : Progress} (h : c.errands = before ++ (e, p) :: after) (counts : Phase → Bool) :
    c.count counts = (before ++ after).countP (counts ·.2.phase) + (counts p.phase).toNat := by
  rw [Crowd.count, h, List.countP_append, List.countP_cons, List.countP_append]
  cases counts p.phase <;> simp [Nat.add_assoc]

/-- What moves together on the counters of a request moves together on those of all. -/
theorem counter_step {counter : State → UInt64} {counts : Phase → Bool}
    (move : ∀ e s p s' p', Turn setup e s p s' p' →
      counter s' + UInt64.ofNat (counts p.phase).toNat =
        counter s + UInt64.ofNat (counts p'.phase).toNat) :
    counter (c.step setup turn).state + UInt64.ofNat (c.count counts) =
      counter c.state + UInt64.ofNat ((c.step setup turn).count counts) := by
  obtain ⟨-, same⟩ | ⟨before, e, p, after, s', p', errands, -, took, stepped⟩ :=
    step_cases setup c turn
  · rw [same]
  · have moved := move _ _ _ _ _ took
    rw [stepped, count_eq errands, count_eq rfl, UInt64.ofNat_add, UInt64.ofNat_add]
    grind

theorem failed_step :
    (c.step setup turn).count Phase.hasFailed =
      c.count Phase.hasFailed + (c.fails setup turn).toNat := by
  obtain ⟨none, same⟩ | ⟨before, e, p, after, s', p', errands, rfl, took, stepped⟩ :=
    step_cases setup c turn
  · simp [same, Crowd.fails, none]
  · have here : c.errands[before.length]? = some (e, p) := by simp [errands]
    rw [stepped, count_eq errands, count_eq rfl, Crowd.fails, here, took.failed]
    exact (Nat.add_assoc _ _ _).symm

/-- The time of a request stands between those of the requests around it. -/
theorem exists_elapsed (before after : List (Errand × Progress)) (e : Errand) :
    ∃ earlier later, ∀ (c : Crowd) (p : Progress), c.errands = before ++ (e, p) :: after →
      c.elapsed = earlier ++ (if p.phase.isDone then [e.clock.elapsed] else []) ++ later := by
  refine ⟨(before.filter (·.2.phase.isDone)).map (·.1.clock.elapsed),
    (after.filter (·.2.phase.isDone)).map (·.1.clock.elapsed), fun c p errands => ?_⟩
  rw [Crowd.elapsed, errands, List.filter_append, List.filter_cons]
  split <;> simp

/-- The request that becomes done is observed, in whatever order the others were. -/
theorem latency_step {h : Histogram}
    (exact : c.state.traffic.latency = Latency.observeAll h c.elapsed) :
    (c.step setup turn).state.traffic.latency =
      Latency.observeAll h (c.step setup turn).elapsed := by
  obtain ⟨-, same⟩ | ⟨before, e, p, after, s', p', errands, -, took, stepped⟩ :=
    step_cases setup c turn
  · rw [same, exact]
  obtain ⟨earlier, later, elapsed⟩ := exists_elapsed before after e
  rw [stepped, elapsed _ p' rfl]
  obtain ⟨kept, same⟩ | ⟨moved, notDone, isDone⟩ := took.latency
  · rw [kept, exact, elapsed c p errands, same]
  · rw [moved, exact, elapsed c p errands, notDone, isDone, if_neg (by decide), if_pos rfl,
      List.append_nil]
    -- it is in the middle of the list and comes last to the histogram
    refine (List.foldl_concat ..).symm.trans (Latency.observeAll_perm ?_ h)
    rw [List.append_assoc, List.append_assoc]
    exact List.perm_append_comm.append_left _

/-- A turn takes the request on whose turn it is, and leaves every other where it was. -/
theorem exists_turn {i : Nat} {e : Errand} {p : Progress} (here : c.errands[i]? = some (e, p)) :
    ∃ p', (c.step setup turn).errands[i]? = some (e, p') ∧
      (i = turn ∧ Turn setup e c.state p (c.step setup turn).state p' ∨ i ≠ turn ∧ p' = p) := by
  by_cases same : i = turn
  · subst same
    have inside := (List.getElem?_eq_some_iff.1 here).1
    refine ⟨(e.next setup c.state p).2, ?_, .inl ⟨rfl, ?_⟩⟩
    · simp only [Crowd.step, here, List.getElem?_set_self inside]
    · simp only [Crowd.step, here]
      exact turn_next setup e c.state p
  · refine ⟨p, ?_, .inr ⟨same, rfl⟩⟩
    unfold Crowd.step
    cases c.errands[turn]? with
    | none => exact here
    | some errand => exact (List.getElem?_set_ne (Ne.symm same)).trans here

@[simp]
theorem length_step : (c.step setup turn).errands.length = c.errands.length := by
  unfold Crowd.step
  cases c.errands[turn]? with
  | none => rfl
  | some errand => exact List.length_set

/-- Every request was there before the turn. -/
theorem exists_turn_before {i : Nat} {e : Errand} {p' : Progress}
    (here : (c.step setup turn).errands[i]? = some (e, p')) :
    ∃ p, c.errands[i]? = some (e, p) ∧
      (i = turn ∧ Turn setup e c.state p (c.step setup turn).state p' ∨ i ≠ turn ∧ p' = p) := by
  have inside := (List.getElem?_eq_some_iff.1 here).1
  rw [length_step] at inside
  rcases found : c.errands[i] with ⟨e', p⟩
  have before : c.errands[i]? = some (e', p) := by rw [List.getElem?_eq_getElem inside, found]
  obtain ⟨q, after, moved⟩ := exists_turn setup c turn before
  rw [here] at after
  cases after
  exact ⟨p, before, moved⟩

theorem done_step_le : c.count Phase.isDone ≤ (c.step setup turn).count Phase.isDone := by
  obtain ⟨-, same⟩ | ⟨before, e, p, after, s', p', errands, -, took, stepped⟩ :=
    step_cases setup c turn
  · rw [same]
  · rw [stepped, count_eq errands, count_eq rfl]
    exact Nat.add_le_add_left took.done_le _

/-- A request that becomes done is one more. -/
theorem done_step_lt {i : Nat} {e : Errand} {p p' : Progress}
    (here : c.errands[i]? = some (e, p)) (notDone : p.phase.isDone = false)
    (here' : (c.step setup turn).errands[i]? = some (e, p')) (isDone : p'.phase.isDone = true) :
    c.count Phase.isDone < (c.step setup turn).count Phase.isDone := by
  obtain ⟨_, there, ⟨rfl, -⟩ | ⟨-, rfl⟩⟩ := exists_turn setup c turn here
  · obtain ⟨none, -⟩ | ⟨before, _, _, after, s', _, errands, rfl, -, stepped⟩ :=
      step_cases setup c i
    · rw [none] at here
      cases here
    · rw [errands, List.getElem?_append_right (Nat.le_refl _), Nat.sub_self] at here
      rw [stepped, List.getElem?_append_right (Nat.le_refl _), Nat.sub_self] at here'
      cases here
      cases here'
      rw [stepped, count_eq errands, count_eq rfl, notDone, isDone]
      exact Nat.lt_succ_self _
  · rw [here'] at there
    cases there
    rw [notDone] at isDone
    cases isDone

end

end CrowdLemmas

end AdminPort
