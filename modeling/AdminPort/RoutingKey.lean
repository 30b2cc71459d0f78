import AdminPort.Fault
import AdminPort.Text.Markup

/-!
# Routing keys

The routing key of a request target is its first path segment, without the
slash in front of it. A segment ends at the next slash or at the query,
whichever comes first; nothing is decoded and no case is folded.

Results:
1. `segment_append_afterSegment`: a text is its segment and what follows it.
2. `not_endsSegment_of_mem_segment`: a segment holds neither delimiter.
-/

namespace AdminPort.RoutingKey

/-- The two characters that end a path segment. -/
def endsSegment (c : Char) : Bool :=
  c == '/' || c == '?'

/-- The first path segment of a text behind its leading slash, up to the nearer of the
two delimiters. Here one walk looks for both of them. A search in the bytes for each
one, and then the lesser of the two offsets, ends the segment at the same place: that
place is `RoutingKey.stop`, and `ByGrammar.cut` says that the segment ends there. -/
def segment (s : List Char) : List Char :=
  s.takeWhile (!endsSegment ·)

/-- What follows the first path segment. -/
def afterSegment (s : List Char) : List Char :=
  s.dropWhile (!endsSegment ·)

/-- The message for a target that does not begin with a slash. -/
def noSlashMessage (target : String) : String :=
  "Query doesn't start with a slash: <code>" ++ Text.Markup.escape target ++ "</code>"

/-- The routing key of a target. -/
def ofTarget (target : String) : Except Fault String :=
  match target.toList with
  | [] => .error (.badRequest "Empty query")
  | '/' :: rest => .ok (String.ofList (segment rest))
  | _ => .error (.badRequest (noSlashMessage target))

theorem segment_append_afterSegment (s : List Char) : segment s ++ afterSegment s = s :=
  List.takeWhile_append_dropWhile

theorem not_endsSegment_of_mem_segment {s : List Char} {c : Char} (h : c ∈ segment s) :
    endsSegment c = false := by
  have := List.all_takeWhile (p := fun c => !endsSegment c) (l := s)
  simpa using List.all_eq_true.1 this c h

end AdminPort.RoutingKey
