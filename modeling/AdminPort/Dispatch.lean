import AdminPort.Daemon
import AdminPort.RoutingKey

/-!
# Dispatch

The way of a request through the daemon. A chunked request is refused before
anything else; then the routing key is taken from the target and the command
under it is run. Whatever happens on the way, the request is answered once, with
the last reply sent, and counted once.

Faults are told apart at the end: the client's own is answered with its reason
and nothing more, any other one is written to the journal, counted as an
exception, and answered with a page about an internal failure.

Results:
1. `registry_settle`, `store_settle`: settling a verdict leaves connections and points alone.
-/

namespace AdminPort

/-- The readings of the clock in one dispatch. -/
structure Clock where
  /-- The time in seconds when statistics are collected. -/
  now : UInt64
  /-- How long the request has taken when the journal tells its end. -/
  reported : Duration
  /-- How long it has taken when it is counted. -/
  elapsed : Duration
deriving DecidableEq, Repr

/-- A request while it is worked on: the exchange, the state, and what was
written to the journal and left to other execution units so far. -/
structure Work where
  exchange : Exchange
  state : State
  journal : List Journal.Entry := []
  tasks : List Task := []
deriving Repr

/-- How the way of a request through the daemon ended. -/
inductive Verdict where
  | handled
  | noSuchCommand
  | failed (fault : Fault)
deriving DecidableEq, Repr

/-- What a dispatch leaves behind. -/
structure Outcome where
  response : Response
  state : State
  journal : List Journal.Entry
  tasks : List Task
deriving Repr

namespace Work

/-- A reply in place of any earlier one. -/
def send (w : Work) (reply : Reply) : Work := { w with exchange := w.exchange.send reply }

/-- Entries at the end of the journal. -/
def note (w : Work) (entries : List Journal.Entry) : Work :=
  { w with journal := w.journal ++ entries }

/-- Stops the daemon: confirms, closes all connections, flushes the store, and
leaves the release of the network to another execution unit, which is taken to
start. A flush that fails ends the command before the release. -/
def shutDown (w : Work) : Work × Option Fault :=
  let w := (w.note [.shutdownRequested w.exchange.conn]).send (.page 200 Page.exiting)
  let (registry, closed) := w.state.registry.closeAll
  let (state, flushed) := { w.state with registry : State }.flush
  let w := { w.note closed with state }
  match flushed with
  | .error fault => (w, some fault)
  | .ok entry => ({ w.note [entry] with tasks := w.tasks ++ [.releaseNetwork] }, none)

/-- Replies with the statistics of all components. -/
def tellStats (setup : Setup) (now : UInt64) (w : Work) : Work × Option Fault :=
  match setup.statsText w.state now with
  | .error fault => (w, some fault)
  | .ok text => (w.send (.plain text), none)

/-- Replies with the build data, as JSON if the target ends in that word. -/
def tellBuild (setup : Setup) (w : Work) : Work :=
  if "json".toList.isSuffixOf w.exchange.uri.toList then w.send (.json setup.build.json)
  else w.send (.plain setup.build.text)

/-- Runs a command, up to its end or the fault that ends it. -/
def run (setup : Setup) (now : UInt64) (w : Work) : Command → Work × Option Fault
  | .shutdown => w.shutDown
  | .stats => w.tellStats setup now
  | .version => (w.tellBuild setup, none)
  | .script _ actions =>
    let (exchange, fault) := Action.run actions w.exchange
    ({ w with exchange }, fault)

/-- The message for a command that ends without a reply. -/
def noReplyMessage (name : String) : String :=
  "command " ++ name ++ " completed without a reply"

/-- Runs a command and judges its end: without a fault there has to be a reply. -/
def complete (setup : Setup) (now : UInt64) (w : Work) (command : Command) : Work × Verdict :=
  match w.run setup now command with
  | (w, some fault) => (w, .failed fault)
  | (w, none) =>
    if w.exchange.reply.isSome then (w, .handled)
    else (w, .failed (.internal (noReplyMessage command.name)))

/-- The way of a request up to a verdict. -/
def route (setup : Setup) (now : UInt64) (w : Work) : Work × Verdict :=
  if w.exchange.request.isChunked then
    (w.note [.chunkedRefused w.exchange.conn w.exchange.uri],
      .failed (.badRequest "Chunked request not supported."))
  else
    match RoutingKey.ofTarget w.exchange.uri with
    | .error fault => (w, .failed fault)
    | .ok key =>
      match setup.table.find? key with
      | none => (w, .noSuchCommand)
      | some command => w.complete setup now command

/-- One more exception on the counters. -/
def countException (w : Work) : Work :=
  { w with state := { w.state with traffic := w.state.traffic.exception } }

/-- What a verdict adds: the last entry of the journal, the answer to anything
but a command that was handled, and the exception that it counts as. -/
def settle (w : Work) (clock : Clock) : Verdict → Work
  | .handled =>
    w.note [.requestDone w.exchange.conn w.exchange.uri clock.reported.milliseconds]
  | .noSuchCommand =>
    (w.note [.noSuchCommand w.exchange.conn w.exchange.uri]).send (.notFound w.exchange.uri)
  | .failed fault =>
    if fault.isClientFault then w.send (.badRequest fault.clientMessage)
    else
      ((w.note [.requestFailed w.exchange.conn w.exchange.uri fault]).send
        (.internalError fault)).countException

/-- The end of a dispatch: the query is counted and the last reply goes out. -/
def finish (w : Work) (elapsed : Duration) : Outcome :=
  { response := w.exchange.response
    state := { w.state with traffic := w.state.traffic.query elapsed }
    journal := w.journal
    tasks := w.tasks }

@[simp]
theorem registry_settle (w : Work) (clock : Clock) (v : Verdict) :
    (w.settle clock v).state.registry = w.state.registry := by
  cases v with
  | failed => simp only [settle]; split <;> rfl
  | _ => rfl

@[simp]
theorem store_settle (w : Work) (clock : Clock) (v : Verdict) :
    (w.settle clock v).state.store = w.state.store := by
  cases v with
  | failed => simp only [settle]; split <;> rfl
  | _ => rfl

end Work

/-- Answers a request on a connection. -/
def dispatch (setup : Setup) (clock : Clock) (state : State) (request : Http.Request)
    (conn : Handle) : Outcome :=
  let start : Work := { exchange := { request, conn }, state }
  let (w, verdict) := start.route setup clock.now
  (w.settle clock verdict).finish clock.elapsed

end AdminPort
