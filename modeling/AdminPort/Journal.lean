import AdminPort.Connection.Handle
import AdminPort.Fault
import AdminPort.Text.Json

/-!
# The journal

What the program writes down while it works. An entry is a cause; its level, its
message and its fields follow from the cause.

Two entries are left out, since no function here writes them: the one in front of
listening on the address, and the one that the execution unit which releases the
network writes at a time of its own.
-/

namespace AdminPort.Journal

/-- How much an entry matters. -/
inductive Level where
  | error
  | warn
  | info
  | debug
deriving DecidableEq, Repr

/-- The name under which a level is shown. -/
def Level.name : Level → String
  | .error => "ERROR"
  | .warn => "WARN"
  | .info => "INFO"
  | .debug => "DEBUG"

/-- An entry of the journal. -/
inductive Entry where
  /-- A chunked request was refused. -/
  | chunkedRefused (conn : Handle) (uri : String)
  /-- No command has the routing key of a request. -/
  | noSuchCommand (conn : Handle) (uri : String)
  /-- A command completed with a reply, so long after the request had come. -/
  | requestDone (conn : Handle) (uri : String) (elapsedMillis : UInt64)
  /-- A request failed through no fault of the client. -/
  | requestFailed (conn : Handle) (uri : String) (fault : Fault)
  /-- A client asked for the daemon to stop. -/
  | shutdownRequested (conn : Handle)
  /-- A client has connected. -/
  | connectionAccepted (conn : Handle)
  /-- All connections are being closed; the number open just before. -/
  | closingConnections (count : Nat)
  /-- The buffer of the store was written out. -/
  | storageFlushed (points : Nat)
  /-- The command table is ready. -/
  | tableBuilt (names : List String)
  /-- There is no configuration file, so the defaults hold. -/
  | defaultsUsed (path : String)
  /-- Requests were still under way when the grace period ended. -/
  | drainTimedOut (graceMillis : Nat)
  /-- The server has stopped. -/
  | serverStopped
deriving DecidableEq, Repr

namespace Entry

/-- The level of an entry. -/
def level : Entry → Level
  | chunkedRefused .. => .error
  | noSuchCommand .. => .debug
  | requestDone .. => .info
  | requestFailed .. => .error
  | shutdownRequested .. => .warn
  | connectionAccepted .. => .debug
  | closingConnections .. => .info
  | storageFlushed .. => .debug
  | tableBuilt .. => .debug
  | defaultsUsed .. => .info
  | drainTimedOut .. => .warn
  | serverStopped => .info

/-- The message of an entry. -/
def message : Entry → String
  | chunkedRefused .. => "received an unsupported chunked request"
  | noSuchCommand .. => "no such command"
  | requestDone .. => "HTTP request done"
  | requestFailed .. => "HTTP request failed"
  | shutdownRequested .. => "shutdown requested"
  | connectionAccepted .. => "connection accepted"
  | closingConnections .. => "closing all connections"
  | storageFlushed .. => "storage flushed"
  | tableBuilt .. => "command table built"
  | defaultsUsed .. => "config file not found, using defaults"
  | drainTimedOut .. => "in-flight requests did not drain in time"
  | serverStopped => "tsdadmin-server stopped"

/-- The fields of an entry besides its level and message. -/
def fields : Entry → List (String × Text.Json.Value)
  | chunkedRefused conn uri => [("conn", .text conn.text), ("uri", .text uri)]
  | noSuchCommand conn uri => [("conn", .text conn.text), ("uri", .text uri)]
  | requestDone conn uri elapsedMillis =>
    [("conn", .text conn.text), ("uri", .text uri), ("elapsed_ms", .number elapsedMillis.toNat)]
  | requestFailed conn uri fault =>
    [("conn", .text conn.text), ("uri", .text uri), ("code", .text fault.code.name),
     ("error", .text fault.text)]
  | shutdownRequested conn => [("conn", .text conn.text)]
  | connectionAccepted conn => [("conn", .text conn.text)]
  | closingConnections count => [("open", .number count)]
  | storageFlushed points => [("points", .number points)]
  | tableBuilt names => [("commands", .text (Text.Quoted.quoteList names))]
  | defaultsUsed path => [("path", .text path)]
  | drainTimedOut graceMillis => [("grace_ms", .number graceMillis)]
  | serverStopped => []

end Entry

end AdminPort.Journal
