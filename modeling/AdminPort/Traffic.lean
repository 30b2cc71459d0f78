import AdminPort.Latency
import AdminPort.Stats.Collector

/-!
# Traffic counters

The number of queries, the number among them that ended in an unclassified
failure, and how long they took. Counters only grow.

Results:
1. `exceptions_query`: a query is counted without touching the exceptions.
-/

namespace AdminPort

/-- Counters of the requests answered so far. -/
structure Traffic where
  queries : UInt64
  exceptions : UInt64
  latency : Histogram
deriving DecidableEq, Repr

namespace Traffic

/-- No request yet. -/
def empty : Traffic := ⟨0, 0, .empty⟩

/-- One more query, with the time it took. -/
def query (t : Traffic) (elapsed : Duration) : Traffic :=
  { t with queries := t.queries + 1, latency := t.latency.observe elapsed }

/-- One more unclassified failure. -/
def exception (t : Traffic) : Traffic :=
  { t with exceptions := t.exceptions + 1 }

/-- The percentiles that are reported. -/
def reportedPercentiles : List UInt64 := [50, 75, 90, 95]

/-- The metric of a percentile. -/
def latencyMetric (percent : UInt64) : String :=
  "http.latency_" ++ Text.Numeral.decimal percent.toNat ++ "pct"

/-- The counters as statistics. -/
def stats (t : Traffic) : List Stats.Call :=
  [.record "http.queries" t.queries, .record "http.exceptions" t.exceptions] ++
    reportedPercentiles.map fun percent =>
      .recordTagged (latencyMetric percent) (t.latency.percentileMillis percent) ("type", "all")

@[simp]
theorem exceptions_query (t : Traffic) (elapsed : Duration) :
    (t.query elapsed).exceptions = t.exceptions := rfl

end Traffic

end AdminPort
