import AdminPort.Dispatch

/-!
# The front of the daemon

Requests reach the daemon on connections. A request that comes on a registered
connection is dispatched under its handle; one that comes on none is given a
registration of its own, which ends with the request.

A release of the network is announced once: announcements that nobody has taken
count as one.
-/

namespace AdminPort

/-- A running daemon with its front. -/
structure Front where
  setup : Setup
  state : State
  /-- A release was announced and not taken yet. -/
  released : Bool := false
deriving Repr

/-- What a request leaves behind at the front. -/
structure Served where
  response : Response
  front : Front
  journal : List Journal.Entry
deriving Repr

namespace Front

/-- A daemon with the built-in commands, and what it writes to the journal as it starts. -/
def start (build : Build) (statsBase statsHost : String) (textProtocol : List Stats.ReportStep) :
    Front × List Journal.Entry :=
  let setup : Setup := { table := .builtin, build, statsBase, statsHost, textProtocol }
  ({ setup, state := .initial [] }, [.tableBuilt setup.table.names])

/-- The front after the tasks of a dispatch have run. -/
def runTasks (front : Front) (tasks : List Task) : Front :=
  { front with released := front.released || tasks.contains .releaseNetwork }

/-- A request dispatched under a handle. -/
def serveUnder (front : Front) (clock : Clock) (request : Http.Request) (conn : Handle) : Served :=
  let outcome := dispatch front.setup clock front.state request conn
  { response := outcome.response
    front := { front with state := outcome.state }.runTasks outcome.tasks
    journal := outcome.journal }

/-- A new connection at the front. -/
def connect (front : Front) (peer : Option Address) : Front × Handle :=
  let (registry, conn) := front.state.registry.register peer
  ({ front with state := { front.state with registry } }, conn)

/-- A connection that a client has made, and what the journal says about it. -/
def accept (front : Front) (peer : Option Address) : Front × Handle × List Journal.Entry :=
  let (front, conn) := front.connect peer
  (front, conn, [.connectionAccepted conn])

/-- A connection that has ended. -/
def disconnect (front : Front) (conn : Handle) : Front :=
  { front with state := { front.state with registry := front.state.registry.drop conn } }

/-- A request under its registration, or under one of its own. -/
def serve (front : Front) (clock : Clock) (request : Http.Request) (registration : Option Handle) :
    Served :=
  match registration with
  | some conn => front.serveUnder clock request conn
  | none =>
    let (front, conn) := front.connect none
    let served := front.serveUnder clock request conn
    { served with front := served.front.disconnect conn }

/-- Takes the announcement of a release, if there is one. -/
def takeRelease (front : Front) : Front × Bool :=
  ({ front with released := false }, front.released)

end Front

end AdminPort
