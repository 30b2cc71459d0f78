import AdminPort.Connection.Registry

/-!
# Waiting for the connections to close

A watch becomes ready when the registry is closing, whether that happened before
or after the watch began. A watch that has been found ready has ended.

Results:
1. `Watch.poll_waiting`: a watch that has not ended is ready exactly when the registry is closing.
-/

namespace AdminPort

/-- A wait for the registry to close. -/
inductive Watch where
  | waiting
  | ended
deriving DecidableEq, Repr

/-- What a look at a watch finds. -/
inductive Watch.Found where
  | pending
  | ready
  | alreadyEnded
deriving DecidableEq, Repr

/-- A look at a watch. -/
def Watch.poll (r : Registry) : Watch → Watch × Watch.Found
  | waiting => if r.closing then (ended, .ready) else (waiting, .pending)
  | ended => (ended, .alreadyEnded)

theorem Watch.poll_waiting (r : Registry) :
    (Watch.poll r .waiting).2 = if r.closing then .ready else .pending := by
  rw [Watch.poll]
  split <;> rfl

end AdminPort
