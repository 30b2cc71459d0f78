import AdminPort.Build
import AdminPort.Command.Table
import AdminPort.Connection.Registry
import AdminPort.PointStore
import AdminPort.Traffic

/-!
# The daemon

What requests are answered from: a setup that never changes, and a state that
they read and move. The world outside shows in two places: how each flush of the
store ends is told in advance, and what the text protocol reports is a list of
calls.
-/

namespace AdminPort

/-- How a flush of the store ends. -/
inductive FlushOutcome where
  | written
  | fails (fault : Fault)
  | panics (payload : PanicPayload)
deriving DecidableEq, Repr

/-- The fault that a flush ends in, if it does. -/
def FlushOutcome.fault? : FlushOutcome → Option Fault
  | written => none
  | fails fault => some fault
  | panics payload => some (.ofPanic payload)

/-- Work that a command leaves to an execution unit of its own, because the
request that it answers would have to wait for itself. -/
inductive Task where
  | releaseNetwork
deriving DecidableEq, Repr

/-- The name of the execution unit that a task runs on. -/
def Task.worker : Task → String
  | releaseNetwork => "release-network"

/-- What never changes while the daemon runs. -/
structure Setup where
  table : Table
  build : Build
  /-- What every metric name starts with. -/
  statsBase : String
  statsHost : String
  /-- What the text protocol reports. -/
  textProtocol : List Stats.ReportStep
deriving DecidableEq, Repr

/-- What requests move. -/
structure State where
  registry : Registry
  store : PointStore
  traffic : Traffic
  /-- How the flushes to come will end; those beyond the list succeed. -/
  flushes : List FlushOutcome
deriving Repr

namespace State

/-- A daemon that has answered nothing yet. -/
def initial (flushes : List FlushOutcome) : State := ⟨.empty, .empty, .empty, flushes⟩

/-- How the next flush ends. -/
def nextFlush (s : State) : FlushOutcome := s.flushes.head?.getD .written

/-- A flush of the store, and the journal entry of one that succeeds. -/
def flush (s : State) : State × Except Fault Journal.Entry :=
  let later := { s with flushes := s.flushes.tail }
  match s.nextFlush.fault? with
  | some fault => (later, .error fault)
  | none =>
    let (store, entry) := s.store.flush
    ({ later with store }, .ok entry)

end State

/-- The statistics of all components in order, as one text; a panic of the text
protocol spoils all of it. -/
def Setup.statsText (setup : Setup) (state : State) (now : UInt64) : Except Fault String := do
  let start : Stats.Collector :=
    { base := setup.statsBase, host := setup.statsHost, timestamp := now }
  let connections := state.registry.stats.foldl Stats.Call.apply start.addHostTag
  let reported ← Stats.report setup.textProtocol connections
  let rest := state.traffic.stats ++ state.store.stats
  return (rest.foldl Stats.Call.apply reported).text

end AdminPort
