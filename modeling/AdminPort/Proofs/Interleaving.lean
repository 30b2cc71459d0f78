import AdminPort.Proofs.Crowd

/-!
# The counters under any schedule

Between turns the counters are off by no more than what is under way. A failure is counted
before its query, so the exceptions may be ahead of the queries, but never by more than the
number of requests in flight. A reading of the queries falls at some turn of its request,
and so between what was done before the request began and what was done before it ended.

Results:
1. `queries_interleave`, `observed_interleave`, `exceptions_interleave`: what the turns of any
   schedule move on the counters.
2. `Crowd.failed_run`: the failures are those of the commands that were run.
3. `queries_read`: a reading of the queries is of the state at its turn.
4. `interleave_alone`: a request that nothing comes between ends as its dispatch does.
5. `tallied_interleave`: the account of any schedule.
-/

namespace AdminPort

open CrowdLemmas

/-! ## Schedules -/

namespace Crowd

variable (setup : Setup) (c : Crowd)

@[simp]
theorem run_nil : c.run setup [] = c := rfl

@[simp]
theorem run_cons (turn : Nat) (rest : List Nat) :
    c.run setup (turn :: rest) = (c.step setup turn).run setup rest := rfl

theorem run_append (schedule later : List Nat) :
    c.run setup (schedule ++ later) = (c.run setup schedule).run setup later :=
  List.foldl_append

theorem counter_run (counter : State → UInt64) {counts : Phase → Bool}
    (move : ∀ e s p s' p', Turn setup e s p s' p' →
      counter s' + UInt64.ofNat (counts p.phase).toNat =
        counter s + UInt64.ofNat (counts p'.phase).toNat) (schedule : List Nat) :
    counter (c.run setup schedule).state + UInt64.ofNat (c.count counts) =
      counter c.state + UInt64.ofNat ((c.run setup schedule).count counts) := by
  induction schedule generalizing c with
  | nil => rfl
  | cons turn rest ih =>
    have moved := counter_step setup c turn move
    have moves := ih (c.step setup turn)
    rw [run_cons]
    grind

theorem latency_run {h : Histogram}
    (exact : c.state.traffic.latency = Latency.observeAll h c.elapsed) (schedule : List Nat) :
    (c.run setup schedule).state.traffic.latency =
      Latency.observeAll h (c.run setup schedule).elapsed := by
  induction schedule generalizing c with
  | nil => exact exact
  | cons turn rest ih => exact ih _ (latency_step setup c turn exact)

/-- The failures are those of the commands that were run, each in the state of its turn. -/
theorem failed_run (schedule : List Nat) :
    (c.run setup schedule).count Phase.hasFailed =
      c.count Phase.hasFailed +
        (c.trace setup schedule).countP fun taken => taken.1.fails setup taken.2 := by
  induction schedule generalizing c with
  | nil => rfl
  | cons turn rest ih =>
    rw [run_cons, ih, failed_step, trace, List.countP_cons]
    cases c.fails setup turn <;> simp
    omega

theorem done_run_le (schedule : List Nat) :
    c.count Phase.isDone ≤ (c.run setup schedule).count Phase.isDone := by
  induction schedule generalizing c with
  | nil => exact Nat.le_refl _
  | cons turn rest ih => exact (done_step_le setup c turn).trans (ih _)

/-- A request keeps its place, goes no phase back, and ends if it has turns enough. -/
theorem exists_run {i : Nat} {e : Errand} {p : Progress} (here : c.errands[i]? = some (e, p))
    (schedule : List Nat) :
    ∃ p', (c.run setup schedule).errands[i]? = some (e, p') ∧ p.phase.rank ≤ p'.phase.rank ∧
      p'.left setup ≤ p.left setup - schedule.count i := by
  induction schedule generalizing c p with
  | nil => exact ⟨p, here, Nat.le_refl _, Nat.le_refl _⟩
  | cons turn rest ih =>
    obtain ⟨q, there, ⟨rfl, took⟩ | ⟨other, rfl⟩⟩ := exists_turn setup c turn here
    · obtain ⟨p', last, rank, left⟩ := ih _ there
      refine ⟨p', last, took.rank_le.trans rank, ?_⟩
      have := took.left_le
      rw [List.count_cons_self]
      omega
    · obtain ⟨p', last, rank, left⟩ := ih _ there
      refine ⟨p', last, rank, ?_⟩
      rwa [List.count_cons_of_ne (Ne.symm other)]

/-- A request that becomes done in the course of a schedule is one more. -/
theorem done_run_lt {i : Nat} {e : Errand} {p p' : Progress} {schedule : List Nat}
    (here : c.errands[i]? = some (e, p)) (notDone : p.phase.isDone = false)
    (here' : (c.run setup schedule).errands[i]? = some (e, p'))
    (isDone : p'.phase.isDone = true) :
    c.count Phase.isDone < (c.run setup schedule).count Phase.isDone := by
  induction schedule generalizing c p with
  | nil =>
    rw [run_nil, here] at here'
    cases here'
    rw [notDone] at isDone
    cases isDone
  | cons turn rest ih =>
    obtain ⟨q, there, -⟩ := exists_turn setup c turn here
    cases atOnce : q.phase.isDone with
    | true =>
      exact Nat.lt_of_lt_of_le (done_step_lt setup c turn here notDone there atOnce)
        (done_run_le setup _ rest)
    | false => exact Nat.lt_of_le_of_lt (done_step_le setup c turn) (ih _ there atOnce here')

/-- The requests stay the same. -/
theorem map_fst_run (schedule : List Nat) :
    (c.run setup schedule).errands.map (·.1) = c.errands.map (·.1) := by
  induction schedule generalizing c with
  | nil => rfl
  | cons turn rest ih =>
    rw [run_cons, ih]
    obtain ⟨-, same⟩ | ⟨before, e, p, after, s', p', errands, -, -, stepped⟩ :=
      step_cases setup c turn
    · rw [same]
    · simp [stepped, errands]

theorem mem_start {s : State} {errands : List Errand} {i : Nat} {e : Errand} {p : Progress}
    (here : (start s errands).errands[i]? = some (e, p)) : p = {} := by
  rw [start, List.getElem?_map] at here
  obtain ⟨_, -, same⟩ := Option.map_eq_some_iff.1 here
  cases same
  rfl

theorem count_start {counts : Phase → Bool} (none : counts .waiting = false) (s : State)
    (errands : List Errand) : (start s errands).count counts = 0 := by
  simp [count, start, List.countP_map, none]

theorem elapsed_start (s : State) (errands : List Errand) : (start s errands).elapsed = [] := by
  simp [elapsed, start, List.filter_map, Phase.isDone, Phase.rank]

end Crowd

/-! ## From the start -/

section

variable {setup : Setup} {s : State} {errands : List Errand}

theorem Setup.interleave_append (setup : Setup) (s : State) (errands : List Errand)
    (schedule later : List Nat) :
    setup.interleave s errands (schedule ++ later) =
      (setup.interleave s errands schedule).run setup later :=
  Crowd.run_append setup _ schedule later

theorem told_run {schedule : List Nat} {i : Nat} {e : Errand} {p : Progress}
    (here : (setup.interleave s errands schedule).errands[i]? = some (e, p)) :
    Told setup e p := by
  induction schedule using List.reverseRecOn generalizing p with
  | nil =>
    rw [Crowd.mem_start here]
    exact fun _ => trivial
  | append_singleton schedule turn ih =>
    rw [Setup.interleave_append] at here
    obtain ⟨q, before, ⟨-, took⟩ | ⟨-, rfl⟩⟩ := exists_turn_before setup _ turn here
    · exact took.told (ih before)
    · exact ih before

/-- Whatever has been read was read at a turn of the request, of the state of that turn. -/
theorem read_run {schedule : List Nat} {i : Nat} {e : Errand} {p : Progress} {k : Nat}
    {call : Stats.Call}
    (here : (setup.interleave s errands schedule).errands[i]? = some (e, p))
    (isRead : p.read[k]? = some call) :
    ∃ before after q, schedule = before ++ after ∧
      (setup.interleave s errands before).errands[i]? = some (e, q) ∧ q.phase = .reading ∧
      (setup.statsCalls (setup.interleave s errands before).state)[k]? = some call := by
  induction schedule using List.reverseRecOn generalizing p with
  | nil =>
    rw [Crowd.mem_start here] at isRead
    cases isRead
  | append_singleton schedule turn ih =>
    rw [Setup.interleave_append] at here
    obtain ⟨q, there, ⟨-, took⟩ | ⟨-, rfl⟩⟩ := exists_turn_before setup _ turn here
    · obtain before | ⟨reading, found⟩ := took.read isRead
      · obtain ⟨before, after, r, rfl, at_before, was⟩ := ih there before
        exact ⟨before, after ++ [turn], r, List.append_assoc .., at_before, was⟩
      · exact ⟨schedule, [turn], q, rfl, there, reading, found⟩
    · obtain ⟨before, after, r, rfl, at_before, was⟩ := ih there isRead
      exact ⟨before, after ++ [turn], r, List.append_assoc .., at_before, was⟩

theorem queries_interleave (setup : Setup) (s : State) (errands : List Errand)
    (schedule : List Nat) :
    let c := setup.interleave s errands schedule
    c.state.traffic.queries = s.traffic.queries + UInt64.ofNat (c.count Phase.isDone) := by
  have moved := Crowd.counter_run setup (Crowd.start s errands)
    (·.traffic.queries) (fun _ _ _ _ _ took => took.queries) schedule
  rw [Crowd.count_start rfl] at moved
  exact (UInt64.add_zero _).symm.trans moved

theorem exceptions_interleave (setup : Setup) (s : State) (errands : List Errand)
    (schedule : List Nat) :
    let c := setup.interleave s errands schedule
    c.state.traffic.exceptions =
      s.traffic.exceptions + UInt64.ofNat (c.count Phase.isCounted) := by
  have moved := Crowd.counter_run setup (Crowd.start s errands)
    (·.traffic.exceptions) (fun _ _ _ _ _ took => took.exceptions) schedule
  rw [Crowd.count_start rfl] at moved
  exact (UInt64.add_zero _).symm.trans moved

theorem latency_interleave (setup : Setup) (s : State) (errands : List Errand)
    (schedule : List Nat) :
    let c := setup.interleave s errands schedule
    c.state.traffic.latency = Latency.observeAll s.traffic.latency c.elapsed :=
  Crowd.latency_run setup _ (by rw [Crowd.elapsed_start]; rfl) schedule

/-- The histogram has as many observations more as there are requests that are done. -/
theorem observed_interleave (setup : Setup) (s : State) (errands : List Errand)
    (schedule : List Nat) :
    let c := setup.interleave s errands schedule
    Latency.Grown s.traffic.latency c.elapsed c.state.traffic.latency ∧
      c.state.traffic.latency.total =
        s.traffic.latency.total + UInt64.ofNat (c.count Phase.isDone) := by
  intro c
  have grown : Latency.Grown s.traffic.latency c.elapsed c.state.traffic.latency := by
    rw [latency_interleave]
    exact Latency.grown_observeAll _ _
  have length : c.elapsed.length = c.count Phase.isDone := by
    rw [Crowd.elapsed, List.length_map, Crowd.count, List.countP_eq_length_filter]
  exact ⟨grown, length ▸ grown.total⟩

/-- A word that does not wrap. -/
theorem toNat_add_ofNat {a : UInt64} {n : Nat} (small : a.toNat + n < UInt64.size) :
    (a + UInt64.ofNat n).toNat = a.toNat + n := by
  rw [UInt64.toNat_add, UInt64.toNat_ofNat_of_lt' (by omega)]
  exact Nat.mod_eq_of_lt small

/-- A failure that is counted is that of a request which is done or still in flight. -/
theorem counted_le (c : Crowd) :
    c.count Phase.isCounted ≤ c.count Phase.isDone + c.count Phase.isInFlight := by
  rw [Crowd.count, Crowd.count, Crowd.count, Latency.countP_add_countP]
  · refine List.countP_mono_left fun errand _ => ?_
    cases errand.2.phase <;> simp [Phase.isCounted, Phase.isDone, Phase.isInFlight, Phase.rank]
  · intro errand isDone
    cases phase : errand.2.phase <;> simp_all [Phase.isDone, Phase.isInFlight, Phase.rank]

end

/-! ## A request alone -/

section

variable (setup : Setup) {s : State} (e : Errand)

theorem run_alone (p : Progress) (n : Nat) :
    (Crowd.mk s [(e, p)]).run setup (List.replicate (n + 1) 0) =
      (Crowd.mk (e.next setup s p).1 [(e, (e.next setup s p).2)]).run setup
        (List.replicate n 0) := rfl

theorem run_done (outcome : Outcome) (verdict : Verdict) (read : List Stats.Call) (n : Nat) :
    (Crowd.mk s [(e, ⟨.done outcome verdict, read⟩)]).run setup (List.replicate n 0) =
      ⟨s, [(e, ⟨.done outcome verdict, read⟩)]⟩ := by
  induction n with
  | zero => rfl
  | succ n ih => exact ih

/-- A verdict is settled and the query counted in two turns. -/
theorem run_ran (w : Work) (verdict : Verdict) (read : List Stats.Call) (n : Nat) :
    let outcome := ({ w with state := s }.settle e.clock verdict).finish e.clock.elapsed
    (Crowd.mk s [(e, ⟨.ran w verdict, read⟩)]).run setup (List.replicate (n + 2) 0) =
      ⟨outcome.state, [(e, ⟨.done outcome verdict, read⟩)]⟩ := by
  intro outcome
  exact run_done ..

/-- With nobody in between the statistics are read as they are. -/
theorem run_reading (rest read : List Stats.Call) (left : setup.statsCalls s = read ++ rest)
    (n : Nat) :
    let w := (e.work s).send (e.told setup (setup.statsCalls s))
    let outcome := (w.settle e.clock .handled).finish e.clock.elapsed
    (Crowd.mk s [(e, ⟨.reading, read⟩)]).run setup (List.replicate (n + 3 + rest.length) 0) =
      ⟨outcome.state, [(e, ⟨.done outcome .handled, setup.statsCalls s⟩)]⟩ := by
  induction rest generalizing read with
  | nil =>
    rw [List.append_nil] at left
    have whole : e.next setup s ⟨.reading, read⟩ =
        (s, ⟨.ran ((e.work s).send (e.told setup read)) .handled, read⟩) := by
      simp [Errand.next, left]
    rw [List.length_nil, Nat.add_zero, run_alone, whole, left]
    exact run_ran ..
  | cons call rest ih =>
    have more : e.next setup s ⟨.reading, read⟩ = (s, ⟨.reading, read ++ [call]⟩) := by
      simp [Errand.next, left]
    rw [List.length_cons, ← Nat.add_assoc, run_alone, more]
    exact ih (read ++ [call]) (by rw [left, List.append_assoc]; rfl)

/-- A request that nothing comes between ends as its dispatch does. -/
theorem interleave_alone (setup : Setup) (s : State) (e : Errand) :
    let outcome := dispatch setup e.clock s e.request e.conn
    ∃ verdict read, setup.interleave s [e] (List.replicate setup.turns 0) =
      ⟨outcome.state, [(e, ⟨.done outcome verdict, read⟩)]⟩ := by
  intro outcome
  have turns : setup.turns = setup.statsLength + 3 + 1 := rfl
  by_cases reads : e.ReadsStats setup
  · have told : outcome = (((e.work s).send (e.told setup (setup.statsCalls s))).settle
        e.clock .handled).finish e.clock.elapsed := by
      refine (dispatch_of_command reads.1 e.clock s e.conn).trans ?_
      rw [Work.run, Work.tellStats, setup.statsText_eq, Command.course, reads.2]
      rfl
    have begun : e.next setup s {} = (s, ⟨.reading, []⟩) := by simp [Errand.next, reads]
    refine ⟨.handled, setup.statsCalls s, ?_⟩
    rw [Setup.interleave, Crowd.start, List.map_singleton, turns, run_alone, begun, told,
      ← length_statsCalls setup s, Nat.add_comm]
    simpa using run_reading setup e (setup.statsCalls s) [] rfl 0
  · refine ⟨((e.work s).route setup e.clock.now).2, [], ?_⟩
    have ran : e.next setup s {} = (((e.work s).route setup e.clock.now).1.state,
        ⟨.ran ((e.work s).route setup e.clock.now).1 ((e.work s).route setup e.clock.now).2,
          []⟩) := by
      simp [Errand.next, reads]
    rw [turns, Setup.interleave, Crowd.start, List.map_singleton, run_alone, ran]
    exact run_ran ..

end

/-! ## When all are done -/

section

variable {c : Crowd}

/-- Requests that are all done have all been counted. -/
theorem counted_of_done (all : c.count Phase.isDone = c.errands.length) :
    c.count Phase.isCounted = c.count Phase.hasFailed ∧
      c.elapsed = c.errands.map (·.1.clock.elapsed) := by
  have done := List.countP_eq_length.1 all
  constructor
  · refine List.countP_congr fun errand mem => ?_
    have isDone := done errand mem
    cases phase : errand.2.phase <;> simp_all [Phase.isCounted, Phase.isDone, Phase.rank]
  · rw [Crowd.elapsed, List.filter_eq_self.2 done]

end

theorem map_fst_interleave (setup : Setup) (s : State) (errands : List Errand)
    (schedule : List Nat) : (setup.interleave s errands schedule).errands.map (·.1) = errands := by
  rw [Setup.interleave, Crowd.map_fst_run]
  simp [Crowd.start, Function.comp_def]

theorem length_interleave (setup : Setup) (s : State) (errands : List Errand)
    (schedule : List Nat) :
    (setup.interleave s errands schedule).errands.length = errands.length := by
  conv_rhs => rw [← map_fst_interleave setup s errands schedule, List.length_map]

/-- Requests that have turns enough are done. -/
theorem done_of_turns {setup : Setup} {s : State} {errands : List Errand} {schedule : List Nat}
    (turns : ∀ i < errands.length, setup.turns ≤ schedule.count i) :
    (setup.interleave s errands schedule).count Phase.isDone = errands.length := by
  rw [← length_interleave setup s errands schedule, Crowd.count, List.countP_eq_length]
  intro errand mem
  obtain ⟨i, here⟩ := List.mem_iff_getElem?.1 mem
  have inside := (List.getElem?_eq_some_iff.1 here).1
  rw [length_interleave] at inside
  have start : (Crowd.start s errands).errands[i]? = some (errands[i], {}) := by
    simp [Crowd.start, inside]
  obtain ⟨p, same, -, left⟩ := Crowd.exists_run setup _ start schedule
  cases here.symm.trans same
  have none : p.left setup = 0 := by
    rw [show ({} : Progress).left setup = setup.turns from rfl,
      Nat.sub_eq_zero_of_le (turns i inside)] at left
    exact Nat.eq_zero_of_le_zero left
  -- only a request that is done has no turn left to it
  cases phase : p.phase with
  | done => rfl
  | _ => simp [Progress.left, phase, Setup.turns] at none

/-- As long as no counter wraps the numbers compare as what they count. -/
theorem exceptions_le {setup : Setup} {s : State} {errands : List Errand} (schedule : List Nat)
    (sound : s.traffic.exceptions ≤ s.traffic.queries)
    (few : s.traffic.queries.toNat + errands.length < UInt64.size) :
    let c := setup.interleave s errands schedule
    c.state.traffic.exceptions.toNat ≤
      c.state.traffic.queries.toNat + c.count Phase.isInFlight := by
  have queries := queries_interleave setup s errands schedule
  have exceptions := exceptions_interleave setup s errands schedule
  have length := length_interleave setup s errands schedule
  generalize setup.interleave s errands schedule = c at *
  have done : c.count Phase.isDone ≤ c.errands.length := List.countP_le_length
  have counted : c.count Phase.isCounted ≤ c.errands.length := List.countP_le_length
  have ahead := counted_le c
  rw [UInt64.le_iff_toNat_le] at sound
  dsimp only at queries exceptions ⊢
  rw [queries, exceptions, toNat_add_ofNat (by omega), toNat_add_ofNat (by omega)]
  omega

/-! ## The account -/

/-- `Between setup s errands schedule i k`: a reading that counts `k` queries is between what
was done before the request at a place began and what was done before it ended.

* `began`: it counts whatever was done while the request was waiting.
* `ended`: it counts no more than is done after the reading, and never the request itself. -/
structure Between (setup : Setup) (s : State) (errands : List Errand) (schedule : List Nat)
    (i k : Nat) : Prop where
  began : ∀ past (e : Errand) (p : Progress), past <+: schedule →
    (setup.interleave s errands past).errands[i]? = some (e, p) → p.phase.rank = 0 →
    (setup.interleave s errands past).count Phase.isDone ≤ k
  ended : ∀ past (e : Errand) (p : Progress), past <+: schedule →
    (setup.interleave s errands past).errands[i]? = some (e, p) → 2 ≤ p.phase.rank →
    k + p.phase.isDone.toNat ≤ (setup.interleave s errands past).count Phase.isDone

section

variable {setup : Setup} {s : State} {errands : List Errand} {schedule : List Nat} {i : Nat}
  {e : Errand} {p : Progress}

theorem queries_read {call : Stats.Call}
    (here : (setup.interleave s errands schedule).errands[i]? = some (e, p))
    (isRead : p.read[setup.queriesPlace]? = some call) :
    ∃ k, call = .record "http.queries" (s.traffic.queries + UInt64.ofNat k) ∧
      Between setup s errands schedule i k := by
  obtain ⟨before, after, q, rfl, there, reading, found⟩ := read_run here isRead
  refine ⟨(setup.interleave s errands before).count Phase.isDone, ?_, ?_, ?_⟩
  · rw [getElem?_queriesPlace, queries_interleave] at found
    exact (Option.some.inj found).symm
  · intro past e' p' begun at_past waits
    obtain early | late := List.prefix_or_prefix_of_prefix begun (List.prefix_append before after)
    · obtain ⟨more, rfl⟩ := early
      rw [Setup.interleave_append]
      exact Crowd.done_run_le setup _ more
    · -- it was reading already, so it waits no more
      obtain ⟨more, rfl⟩ := late
      rw [Setup.interleave_append] at at_past
      obtain ⟨_, same, rank, -⟩ := Crowd.exists_run setup _ there more
      cases at_past.symm.trans same
      rw [reading, waits] at rank
      exact absurd rank (by decide)
  · intro past e' p' begun at_past past_reading
    obtain early | late := List.prefix_or_prefix_of_prefix begun (List.prefix_append before after)
    · -- it is still reading later on
      obtain ⟨more, rfl⟩ := early
      rw [Setup.interleave_append] at there
      obtain ⟨_, same, rank, -⟩ := Crowd.exists_run setup _ at_past more
      cases there.symm.trans same
      rw [reading] at rank
      exact absurd (past_reading.trans rank) (by decide)
    · obtain ⟨more, rfl⟩ := late
      rw [Setup.interleave_append] at at_past ⊢
      obtain ⟨_, same, -⟩ := Crowd.exists_run setup _ there more
      cases at_past.symm.trans same
      cases isDone : p'.phase.isDone with
      | true => exact Crowd.done_run_lt setup _ there (by rw [reading]; rfl) at_past isDone
      | false => exact Crowd.done_run_le setup _ more

end

/-- `Tallied setup s errands`: the account of requests that are worked on at once, after the
turns of any schedule.

* `alone`: a request that nothing comes between ends as its dispatch does.
* `ends`: requests that have turns enough are all done.
* `queries`, `latency`, `observed`: whoever is done is one query and one observation, which the
  histogram holds in the bucket for its time.
* `exceptions`: whatever failure is settled is one exception.
* `whole`: when all are done each of them is counted, and each command that ran into an
  unclassified failure in the state of its turn.
* `ahead`, `bounded`: the exceptions are ahead of the queries by no more than is in flight.
* `reads`: a reading of the queries is between what was done before its request began and what
  was done before it ended.
* `reports`: the statistics have such a reading, and the client is told what was read. -/
structure Tallied (setup : Setup) (s : State) (errands : List Errand) : Prop where
  alone : ∀ e, let outcome := dispatch setup e.clock s e.request e.conn
    ∃ verdict read, setup.interleave s [e] (List.replicate setup.turns 0) =
      ⟨outcome.state, [(e, ⟨.done outcome verdict, read⟩)]⟩
  ends : ∀ schedule, (∀ i < errands.length, setup.turns ≤ schedule.count i) →
    (setup.interleave s errands schedule).count Phase.isDone = errands.length
  queries : ∀ schedule, let c := setup.interleave s errands schedule
    c.state.traffic.queries = s.traffic.queries + UInt64.ofNat (c.count Phase.isDone)
  latency : ∀ schedule, let c := setup.interleave s errands schedule
    c.state.traffic.latency = Latency.observeAll s.traffic.latency c.elapsed
  observed : ∀ schedule, let c := setup.interleave s errands schedule
    Latency.Grown s.traffic.latency c.elapsed c.state.traffic.latency ∧
      c.state.traffic.latency.total =
        s.traffic.latency.total + UInt64.ofNat (c.count Phase.isDone)
  exceptions : ∀ schedule, let c := setup.interleave s errands schedule
    c.state.traffic.exceptions = s.traffic.exceptions + UInt64.ofNat (c.count Phase.isCounted)
  whole : ∀ schedule, let c := setup.interleave s errands schedule
    c.count Phase.isDone = errands.length →
      c.state.traffic.queries = s.traffic.queries + UInt64.ofNat errands.length ∧
        c.state.traffic.latency =
          Latency.observeAll s.traffic.latency (errands.map (·.clock.elapsed)) ∧
        Latency.Grown s.traffic.latency (errands.map (·.clock.elapsed)) c.state.traffic.latency ∧
        c.state.traffic.latency.total = s.traffic.latency.total + UInt64.ofNat errands.length ∧
        c.state.traffic.exceptions = s.traffic.exceptions +
          UInt64.ofNat (((Crowd.start s errands).trace setup schedule).countP
            fun taken => taken.1.fails setup taken.2)
  ahead : ∀ schedule, let c := setup.interleave s errands schedule
    c.count Phase.isCounted ≤ c.count Phase.isDone + c.count Phase.isInFlight
  bounded : ∀ schedule, s.traffic.exceptions ≤ s.traffic.queries →
    s.traffic.queries.toNat + errands.length < UInt64.size →
    let c := setup.interleave s errands schedule
    c.state.traffic.exceptions.toNat ≤ c.state.traffic.queries.toNat + c.count Phase.isInFlight
  reads : ∀ schedule (i : Nat) (e : Errand) (p : Progress) call,
    (setup.interleave s errands schedule).errands[i]? = some (e, p) →
    p.read[setup.queriesPlace]? = some call →
    ∃ k, call = .record "http.queries" (s.traffic.queries + UInt64.ofNat k) ∧
      Between setup s errands schedule i k
  reports : ∀ schedule (i : Nat) (e : Errand) (p : Progress) (outcome : Outcome) verdict,
    (setup.interleave s errands schedule).errands[i]? = some (e, p) →
    p.phase = .done outcome verdict → e.ReadsStats setup →
    setup.queriesPlace < p.read.length ∧
      outcome.response =
        ⟨200, some "text/plain; charset=UTF-8", setup.bodyOf e.clock.now p.read⟩

/-- No schedule loses an update or makes it twice, whatever requests are worked on at once. -/
theorem tallied_interleave (setup : Setup) (s : State) (errands : List Errand) :
    Tallied setup s errands where
  alone := interleave_alone setup s
  ends _ := done_of_turns
  queries := queries_interleave setup s errands
  latency := latency_interleave setup s errands
  observed := observed_interleave setup s errands
  exceptions := exceptions_interleave setup s errands
  whole schedule all := by
    rw [← length_interleave setup s errands schedule] at all
    obtain ⟨counted, elapsed⟩ := counted_of_done all
    obtain ⟨grown, total⟩ := observed_interleave setup s errands schedule
    have failed := Crowd.failed_run setup (Crowd.start s errands) schedule
    rw [Crowd.count_start rfl, Nat.zero_add] at failed
    have times : (setup.interleave s errands schedule).elapsed =
        errands.map (·.clock.elapsed) := by
      conv_rhs => rw [← map_fst_interleave setup s errands schedule, List.map_map]
      exact elapsed
    refine ⟨?_, times ▸ latency_interleave setup s errands schedule, times ▸ grown, ?_, ?_⟩
    · rw [queries_interleave, all, length_interleave]
    · rw [total, all, length_interleave]
    · rw [exceptions_interleave, counted, Setup.interleave, failed]
  ahead _ := counted_le _
  bounded schedule := exceptions_le schedule
  reads _ _ _ _ _ := queries_read
  reports _ _ _ _ _ _ here isDone reads := by
    have told := told_run here reads
    simp only [isDone] at told
    exact ⟨Nat.lt_of_lt_of_le (by simp [Setup.statsLength]) told.1, told.2⟩

/-- A request that fails and one that takes very long. -/
def exErrands : List Errand :=
  [⟨exClock, exGet "/mute", exConn⟩,
    ⟨{ exClock with elapsed := ⟨61, 0⟩ }, exGet "/version", exConn⟩]

/-- Turn by turn both are counted, and each is observed where its time belongs. -/
theorem tallied_interleave_exErrands :
    let c := exSetup.interleave (.initial []) exErrands [0, 1, 0, 1, 1, 0]
    c.count Phase.isDone = 2 ∧ c.state.traffic.queries = 2 ∧ c.state.traffic.exceptions = 1 ∧
      c.state.traffic.latency.total = 2 ∧
      c.state.traffic.latency.buckets =
        [(100, 0), (500, 0), (1000, 0), (5000, 1), (10000, 0), (50000, 0), (100000, 0),
          (500000, 0), (1000000, 0), (5000000, 0), (10000000, 0), (60000000, 0)] ∧
      c.state.traffic.latency.overflow = 1 := by
  intro c
  have tallied := tallied_interleave exSetup (.initial []) exErrands
  have all : c.count Phase.isDone = exErrands.length := by decide +kernel
  obtain ⟨queries, -, grown, total, exceptions⟩ := tallied.whole _ all
  refine ⟨all, queries, exceptions.trans (by decide +kernel), total, ?_, ?_⟩
  · exact grown.buckets.trans (by decide +kernel)
  · exact grown.overflow.trans (by decide +kernel)

/-- A failure is counted before its query, so the exceptions may be ahead. -/
example :
    let c := exSetup.interleave (.initial []) [⟨exClock, exGet "/mute", exConn⟩] [0, 0]
    c.state.traffic.exceptions = 1 ∧ c.state.traffic.queries = 0 := by decide +kernel

end AdminPort
