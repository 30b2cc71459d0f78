import AdminPort.Front

/-!
# Serving

A server accepts connections until it is told to close, and then waits for those
that it has accepted. Next to that it waits for a release of the network. What
comes first ends the wait: once the server is told to close and its last
connection is finished it stops; after a release it goes on for a grace period at
most.

What happens is only recorded as it happens, and looked at when the server is
woken. So a release that comes before the first wait is kept, though not counted,
and drained connections and a release can be found together. Then either may be
picked.

Results:
1. `journal_receive`: what happens is not written to the journal before the server is woken.
2. `wake_stopped`: a server that has stopped stays as it is.
-/

namespace AdminPort

/-- What happens to a server. -/
inductive ServingEvent where
  | toldToClose
  | accepted
  | finished
  | released
  | graceOver
deriving DecidableEq, Repr

/-- What a server waits for. -/
inductive ServingPhase where
  /-- For its connections to drain, or for a release. -/
  | open
  /-- For its connections to drain, or for the end of the grace period. -/
  | draining
  /-- For nothing. -/
  | stopped
deriving DecidableEq, Repr

/-- What is picked when drained connections and a release are found together. -/
inductive ServingPick where
  | drained
  | release
deriving DecidableEq, Repr

/-- A server. -/
structure Serving where
  closing : Bool := false
  /-- How many accepted connections are not finished. -/
  connections : Nat := 0
  /-- A release was announced and not taken yet. -/
  released : Bool := false
  /-- The grace period is over. -/
  graceOver : Bool := false
  phase : ServingPhase := .open
  journal : List Journal.Entry := []
deriving DecidableEq, Repr

namespace Serving

/-- Whether the server was told to close and has no connections left. -/
def isDrained (s : Serving) : Bool := s.closing && s.connections == 0

/-- Records what happens. The grace period begins with the draining, so it cannot
be over before. -/
def receive (s : Serving) : ServingEvent → Serving
  | .toldToClose => { s with closing := true }
  | .accepted => { s with connections := s.connections + 1 }
  | .finished => { s with connections := s.connections - 1 }
  | .released => { s with released := true }
  | .graceOver => if s.phase = .draining then { s with graceOver := true } else s

/-- The end of serving, with what is written to the journal before its last entry. -/
def stop (s : Serving) (entries : List Journal.Entry) : Serving :=
  { s with phase := .stopped, journal := s.journal ++ entries ++ [.serverStopped] }

/-- The wait for the connections within the grace period. They are looked at first. -/
def drain (s : Serving) (graceMillis : Nat) : Serving :=
  if s.isDrained then s.stop []
  else if s.graceOver then s.stop [.drainTimedOut graceMillis]
  else s

/-- Looks at what has happened. -/
def wake (s : Serving) (graceMillis : Nat) (pick : ServingPick) : Serving :=
  match s.phase with
  | .stopped => s
  | .draining => s.drain graceMillis
  | .open =>
    if s.isDrained && (!s.released || pick == .drained) then s.stop []
    else if s.released then
      { s with released := false, phase := .draining : Serving }.drain graceMillis
    else s

/-- Records what happens and looks at it. -/
def react (s : Serving) (graceMillis : Nat) (pick : ServingPick) (event : ServingEvent) : Serving :=
  (s.receive event).wake graceMillis pick

@[simp]
theorem journal_receive (s : Serving) (event : ServingEvent) :
    (s.receive event).journal = s.journal := by
  cases event with
  | graceOver => simp only [receive]; split <;> rfl
  | _ => rfl

theorem wake_stopped {s : Serving} (h : s.phase = .stopped) (graceMillis : Nat)
    (pick : ServingPick) : s.wake graceMillis pick = s := by
  simp [wake, h]

end Serving

/-! ## Visits -/

/-- A front and the server that it stands behind. -/
structure Service where
  front : Front
  graceMillis : Nat
  serving : Serving := {}

/-- What happens to the server by a request: its connections are closed, and the
network is released, if the request asks for it. -/
def Front.events (before after : Front) : List ServingEvent :=
  (if after.state.registry.closing && !before.state.registry.closing then [.toldToClose] else []) ++
    (if after.released then [.released] else [])

/-- A visit: a connection that brings one request and is finished with its answer. -/
def Service.visit (service : Service) (clock : Clock) (peer : Option Address)
    (request : Http.Request) : Service × Served :=
  let (front, conn, accepted) := service.front.accept peer
  let served := front.serve clock request (some conn)
  let happened := [.accepted] ++ front.events served.front ++ [.finished]
  let serving := happened.foldl (fun s event => s.react service.graceMillis .drained event)
    service.serving
  let front := (served.front.takeRelease.1).disconnect conn
  ({ service with front, serving },
    { served with front, journal := accepted ++ served.journal })

end AdminPort
