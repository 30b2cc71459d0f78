import AdminPort.Text.Numeral

/-!
# Lines of statistics

One recorded value as one line of text: the metric, the time in seconds, the
value and the tags, separated by single spaces and ended by a line feed.
-/

namespace AdminPort.Stats

/-- A tag: its name and its value. -/
abbrev Tag := String × String

/-- A recorded value. -/
structure Line where
  metric : String
  timestamp : UInt64
  value : UInt64
  tags : List Tag
deriving DecidableEq, Repr

/-- A tag behind the blank that separates it. -/
def writeTag (tag : Tag) : String :=
  " " ++ tag.1 ++ "=" ++ tag.2

/-- Tags in order, each behind a blank. -/
def writeTags (tags : List Tag) : String :=
  tags.foldr (fun tag rest => writeTag tag ++ rest) ""

/-- The text of a line, with its line feed. -/
def Line.write (line : Line) : String :=
  line.metric ++ " " ++ Text.Numeral.decimal line.timestamp.toNat ++ " " ++
    Text.Numeral.decimal line.value.toNat ++ writeTags line.tags ++ "\n"

end AdminPort.Stats
