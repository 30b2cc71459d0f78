import AdminPort.Dispatch

/-!
# Runs of a daemon

What may happen to a daemon from outside, one thing after another: requests are
dispatched, connections come and go, points arrive, and the store is flushed. A
run is a list of such steps from a state; its trace pairs each step with the
state that it was taken in.

Results:
1. `map_snd_trace`: the trace of a run has its steps in order.
2. `counter_run`: a counter that some steps move by one ends as many further on as
   there are such steps.
-/

namespace AdminPort

/-- A step that is taken on a daemon from outside. -/
inductive Step where
  | dispatch (clock : Clock) (request : Http.Request) (conn : Handle)
  | connect (peer : Option Address)
  | disconnect (conn : Handle)
  | addPoint (point : DataPoint)
  | flush
deriving Repr

/-- Whether a step is a request that is dispatched. -/
def Step.isDispatch : Step → Bool
  | dispatch .. => true
  | _ => false

namespace State

/-- The state after a step. A point that is refused and a flush that fails leave
the rest of the state as it was. -/
def step (setup : Setup) (s : State) : Step → State
  | .dispatch clock request conn => (AdminPort.dispatch setup clock s request conn).state
  | .connect peer => { s with registry := (s.registry.register peer).1 }
  | .disconnect conn => { s with registry := s.registry.drop conn }
  | .addPoint point =>
    match s.store.add point with
    | .ok store => { s with store }
    | .error _ => s
  | .flush => s.flush.1

/-- The state after steps in order. -/
def run (setup : Setup) (s : State) (steps : List Step) : State :=
  steps.foldl (step setup) s

/-- The steps of a run, each with the state that it is taken in. -/
def trace (setup : Setup) : State → List Step → List (State × Step)
  | _, [] => []
  | s, step :: rest => (s, step) :: trace setup (s.step setup step) rest

@[simp]
theorem run_nil (setup : Setup) (s : State) : s.run setup [] = s := rfl

@[simp]
theorem run_cons (setup : Setup) (s : State) (step : Step) (rest : List Step) :
    s.run setup (step :: rest) = (s.step setup step).run setup rest := rfl

theorem run_concat (setup : Setup) (s : State) (steps : List Step) (step : Step) :
    s.run setup (steps ++ [step]) = (s.run setup steps).step setup step := by
  simp [run]

theorem trace_concat (setup : Setup) (s : State) (steps : List Step) (step : Step) :
    s.trace setup (steps ++ [step]) = s.trace setup steps ++ [(s.run setup steps, step)] := by
  induction steps generalizing s with
  | nil => rfl
  | cons first rest ih => rw [List.cons_append, trace, ih, trace, run_cons, List.cons_append]

theorem map_snd_trace (setup : Setup) (s : State) (steps : List Step) :
    (s.trace setup steps).map (·.2) = steps := by
  induction steps generalizing s with
  | nil => rfl
  | cons step rest ih => rw [trace, List.map_cons, ih]

/-- Counting is modulo the size of a word, as the counters are. -/
theorem counter_run {setup : Setup} (counter : State → UInt64) (counted : State × Step → Bool)
    (move : ∀ s step, counter (s.step setup step) =
      counter s + if counted (s, step) then 1 else 0) (s : State) (steps : List Step) :
    counter (s.run setup steps) =
      counter s + UInt64.ofNat ((s.trace setup steps).countP counted) := by
  induction steps generalizing s with
  | nil => simp [trace]
  | cons step rest ih =>
    -- the step that was taken first is counted first
    rw [run_cons, ih, move, trace, List.countP_cons, UInt64.ofNat_add, UInt64.add_assoc,
      UInt64.add_comm (UInt64.ofNat _)]
    cases counted (s, step) <;> rfl

end State

end AdminPort
