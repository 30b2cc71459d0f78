import AdminPort.Journal
import AdminPort.Stats.Collector

/-!
# Buffered data points

Points wait in a buffer until they are flushed. A flush empties the buffer and
counts what was in it.

Results:
1. `size_flush`: nothing is left after a flush.
-/

namespace AdminPort

/-- A value of a metric at a time. -/
structure DataPoint where
  metric : String
  timestamp : UInt64
  value : Float
deriving BEq, Repr

/-- Points in the buffer, oldest first, and what was flushed so far. -/
structure PointStore where
  buffered : Array DataPoint
  flushed : UInt64
  flushes : UInt64
deriving Repr

namespace PointStore

/-- No point yet. -/
def empty : PointStore := ⟨#[], 0, 0⟩

/-- The number of points in the buffer. -/
def size (s : PointStore) : Nat := s.buffered.size

/-- One more point; a metric without a name is refused. -/
def add (s : PointStore) (point : DataPoint) : Except Fault PointStore :=
  if point.metric.isEmpty then .error (.badRequest "metric name must not be empty")
  else .ok { s with buffered := s.buffered.push point }

/-- The buffer written out, with the journal entry that says so. -/
def flush (s : PointStore) : PointStore × Journal.Entry :=
  (⟨#[], s.flushed + UInt64.ofNat s.size, s.flushes + 1⟩, .storageFlushed s.size)

/-- The store as statistics. -/
def stats (s : PointStore) : List Stats.Call :=
  [.record "storage.points_buffered" (UInt64.ofNat s.size),
   .record "storage.points_flushed" s.flushed,
   .record "storage.flushes" s.flushes]

@[simp]
theorem size_flush (s : PointStore) : s.flush.1.size = 0 := rfl

end PointStore

end AdminPort
