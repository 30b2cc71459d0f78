import AdminPort.Fault
import AdminPort.Stats.Line

/-!
# Collecting statistics

A collector turns named values into lines at the end of a text. All its lines
share one time. A tag that is added to the collector is written on every later
line, behind the tag of the line itself; adding it again changes its value and
keeps its place.

Results:
1. `text_record`: a record appends one line and changes nothing before it.
2. `text_addTag`: adding a tag writes nothing.
-/

namespace AdminPort.Stats

/-- Gives a tag a value: in its place if it is there already, behind all others if not. -/
def setTag (tag : Tag) : List Tag → List Tag
  | [] => [tag]
  | t :: rest => if t.1 = tag.1 then tag :: rest else t :: setTag tag rest

/-- A collection under way. -/
structure Collector where
  /-- What every metric name starts with, up to the first dot. -/
  base : String
  host : String
  timestamp : UInt64
  tags : List Tag := []
  text : String := ""
deriving Repr

namespace Collector

/-- The line that a value would be recorded as. -/
def line (c : Collector) (name : String) (value : UInt64) (own : Option Tag) : Line :=
  ⟨c.base ++ "." ++ name, c.timestamp, value, own.toList ++ c.tags⟩

/-- Text taken over as it is. -/
def emit (c : Collector) (text : String) : Collector :=
  { c with text := c.text ++ text }

/-- A value as a line with the collector's tags. -/
def record (c : Collector) (name : String) (value : UInt64) : Collector :=
  c.emit (c.line name value none).write

/-- A value as a line with a tag of its own before the collector's tags. -/
def recordTagged (c : Collector) (name : String) (value : UInt64) (own : Tag) : Collector :=
  c.emit (c.line name value (some own)).write

/-- A tag for every later line. -/
def addTag (c : Collector) (tag : Tag) : Collector :=
  { c with tags := setTag tag c.tags }

/-- The host as a tag for every later line. -/
def addHostTag (c : Collector) : Collector :=
  c.addTag ("host", c.host)

@[simp]
theorem text_emit (c : Collector) (text : String) : (c.emit text).text = c.text ++ text := rfl

@[simp]
theorem text_record (c : Collector) (name : String) (value : UInt64) :
    (c.record name value).text = c.text ++ (c.line name value none).write := rfl

@[simp]
theorem text_addTag (c : Collector) (tag : Tag) : (c.addTag tag).text = c.text := rfl

end Collector

/-! ## Calls as data -/

/-- A call that a component makes on the collector it is handed. -/
inductive Call where
  | hostTag
  | tag (t : Tag)
  | record (name : String) (value : UInt64)
  | recordTagged (name : String) (value : UInt64) (own : Tag)
  | emit (text : String)
deriving DecidableEq, Repr

/-- The collector after a call. -/
def Call.apply (c : Collector) : Call → Collector
  | hostTag => c.addHostTag
  | tag t => c.addTag t
  | record name value => c.record name value
  | recordTagged name value own => c.recordTagged name value own
  | emit text => c.emit text

/-- What a component does when it is asked for its statistics: calls in order,
and a panic that ends them. -/
inductive ReportStep where
  | call (c : Call)
  | panic (payload : PanicPayload)
deriving DecidableEq, Repr

/-- A component's whole report, or the fault of the panic that cut it short. -/
def report : List ReportStep → Collector → Except Fault Collector
  | [], c => .ok c
  | .call call :: rest, c => report rest (call.apply c)
  | .panic payload :: _, _ => .error (.ofPanic payload)

end AdminPort.Stats
