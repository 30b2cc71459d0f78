import AdminPort.Connection.Handle
import AdminPort.Journal
import AdminPort.Stats.Collector

/-!
# The connection registry

The connections that are open, in the order they were opened, and how many were
opened in all. Handles are numbered from 1 by a counter of their own, which moves
with the number of those opened. Closing all connections happens once: it sets the
closing flag and forgets the connections open by then; later calls change nothing.

Results:
1. `closeAll_of_closing`: closing twice changes nothing.
-/

namespace AdminPort

/-- Open connections and what became of the others. -/
structure Registry where
  connections : List Handle
  /-- The number of the next connection. -/
  nextId : UInt64
  established : UInt64
  closing : Bool
  nextId_eq : nextId = established + 1
deriving DecidableEq, Repr

namespace Registry

/-- No connection yet. -/
def empty : Registry := ⟨[], 1, 0, false, rfl⟩

/-- The number of open connections. -/
def size (r : Registry) : Nat := r.connections.length

/-- One more connection, and its handle. -/
def register (r : Registry) (peer : Option Address) : Registry × Handle :=
  let handle := ⟨r.nextId, peer⟩
  ({ r with
      connections := r.connections ++ [handle]
      nextId := r.nextId + 1
      established := r.established + 1
      nextId_eq := congrArg (· + 1) r.nextId_eq }, handle)

/-- A connection that has ended. -/
def drop (r : Registry) (handle : Handle) : Registry :=
  { r with connections := r.connections.filter (·.id != handle.id) }

/-- All connections closed, unless that has happened before; the first time, the
journal says how many were open. -/
def closeAll (r : Registry) : Registry × List Journal.Entry :=
  if r.closing then (r, [])
  else ({ r with connections := [], closing := true }, [.closingConnections r.size])

/-- The registry as statistics. -/
def stats (r : Registry) : List Stats.Call :=
  [.record "connectionmgr.connections" (UInt64.ofNat r.size),
   .record "connectionmgr.established" r.established]

theorem closeAll_of_closing {r : Registry} (h : r.closing = true) : r.closeAll = (r, []) := by
  simp [closeAll, h]

end Registry

end AdminPort
