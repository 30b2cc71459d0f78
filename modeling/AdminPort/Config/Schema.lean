import AdminPort.Config

/-!
# The schema of a configuration

A configuration is a mapping with the fields `version`, `server` and `stats`; the
sections are mappings with fields of their own. No field may be given twice and
no other field may be given. A section that is left empty has its defaults; so
has the host when it is null.

Whatever comes first in the document is objected to first, and in front of any
place where the text itself goes wrong.
-/

namespace AdminPort.Config.Schema

open Yaml

/-- A value that is read from a document, or what is wrong with the document. -/
abbrev Reading (α : Type) := Except DocumentFault α

/-- A mismatch at a place. -/
def mismatch {α : Type} (cause : Mismatch) (path : List PathStep) (mark : Mark) : Reading α :=
  .error (.mismatch cause ⟨path, mark⟩)

/-- The place where the text of a document goes wrong. -/
def broken {α : Type} (d : Document) : Reading α :=
  .error (.text (d.brokenOff.getD .malformed))

/-- A scalar where one is expected. Whatever else stands there is objected to. -/
def readScalar {α : Type} (d : Document) (expected : String) (path : List PathStep) (node : Node)
    (read : Scalar → Mark → Reading α) : Reading α :=
  match d.follow node with
  | .scalar s mark => read s mark
  | .sequence _ mark => mismatch (.wrongType .sequence expected) path mark
  | .mapping _ mark => mismatch (.wrongType .mapping expected) path mark
  | _ => broken d

/-- A text: any scalar. -/
def readText (d : Document) (path : List PathStep) (node : Node) : Reading String :=
  readScalar d "a string" path node fun s _ => .ok s.text

/-- A text that may be null. A scalar that is tagged as null has to be one; if it
is not, the mapping that it belongs to, at `outer`, is objected to. -/
def readOptionalText (d : Document) (path : List PathStep) (outer : Place) (node : Node) :
    Reading (Option String) :=
  readScalar d "a string" path node fun s _ =>
    if s.style != .plain then .ok (some s.text)
    else if s.tag.isNone then .ok (if s.isBlank || isNullWord s.text then none else some s.text)
    else if s.tag = some nullTag then
      if isNullWord s.text then .ok none
      else .error (.mismatch (.wrongValue (.text s.text) "null") outer)
    else .ok (some s.text)

/-- Whether a scalar may be an integer: it is plain, or literal and tagged as one. -/
def mayBeInteger (s : Scalar) : Bool :=
  s.style == .plain || (s.style == .literal && s.tag == some integerTag)

/-- An integer below a bound. One that 64 bits hold is of the right type at least. -/
def readInteger (d : Document) (bound : Nat) (expected : String) (path : List PathStep)
    (node : Node) : Reading Nat :=
  readScalar d expected path node fun s mark =>
    match if mayBeInteger s then unsigned? UInt64.size s.text.toList else none with
    | some n =>
      if n < bound then .ok n else mismatch (.wrongValue (.integer n) expected) path mark
    | none => mismatch (s.mismatch expected) path mark

/-- The name of a field that is known, and the step to its value. A name that
stands elsewhere in the document leaves the step unnamed. -/
def readKey (d : Document) (known : List String) (path : List PathStep) (node : Node) :
    Reading (String × PathStep) :=
  readScalar d "field identifier" path node fun s mark =>
    if known.contains s.text then
      .ok (s.text, match node with
        | .scalar .. => .key s.text
        | _ => .unnamed)
    else mismatch (.unknownField s.text known) path mark

/-- Fields one after the other, none of them twice. `place` is where their mapping
is, and `read` takes a field into what was read before it. -/
def readFields {α : Type} (d : Document) (known : List String) (place : Place)
    (read : α → String → List PathStep → Node → Reading α) :
    List String → List (Node × Node) → α → Reading α
  | _, [], a => .ok a
  | seen, (key, value) :: rest, a => do
    let (name, step) ← readKey d known place.path key
    if seen.contains name then mismatch (.duplicateField name) place.path place.mark
    else
      let a ← read a name (place.path ++ [step]) value
      readFields d known place read (name :: seen) rest a

/-- The entries of a mapping and where it begins; a blank scalar is a mapping
without entries. -/
def readMapping (d : Document) (expected : String) (path : List PathStep) (node : Node) :
    Reading (List (Node × Node) × Place) :=
  match d.follow node with
  | .nothing mark => .ok ([], ⟨path, mark⟩)
  | .mapping entries mark => .ok (entries, ⟨path, mark⟩)
  | .scalar s mark =>
    if s.isBlank then .ok ([], ⟨path, mark⟩) else mismatch (s.mismatch expected) path mark
  | .sequence _ mark => mismatch (.wrongType .sequence expected) path mark
  | _ => broken d

/-- The section about serving. -/
def readServer (d : Document) (path : List PathStep) (node : Node) : Reading ServerSection := do
  let (entries, place) ← readMapping d "struct ServerSection" path node
  readFields d ["listen", "shutdown_grace_ms"] place
    (fun soFar name path value =>
      if name = "listen" then do return { soFar with listen := ← readText d path value }
      else do return { soFar with graceMillis := ← readInteger d UInt64.size "u64" path value })
    [] entries {}

/-- The section about statistics. -/
def readStats (d : Document) (path : List PathStep) (node : Node) : Reading StatsSection := do
  let (entries, place) ← readMapping d "struct StatsSection" path node
  readFields d ["prefix", "host"] place
    (fun soFar name path value =>
      if name = "prefix" then do return { soFar with base := ← readText d path value }
      else do return { soFar with host := ← readOptionalText d path place value })
    [] entries {}

/-- The fields of a configuration that were read so far. -/
structure Draft where
  version : Option Nat := none
  server : ServerSection := {}
  stats : StatsSection := {}

/-- The root of a document as a configuration, whose version must be there. -/
def readRoot (d : Document) (root : Node) : Reading Config := do
  let (entries, place) ← readMapping d "struct AdminConfig" [] root
  let draft ← readFields d ["version", "server", "stats"] place
    (fun draft name path value =>
      if name = "version" then do
        return { draft with version := some (← readInteger d UInt32.size "u32" path value) }
      else if name = "server" then do return { draft with server := ← readServer d path value }
      else do return { draft with stats := ← readStats d path value })
    [] entries ({} : Draft)
  match draft.version with
  | none => mismatch (.missingField "version") place.path place.mark
  | some version => .ok { version, server := draft.server, stats := draft.stats }

/-- A document as a configuration. What is wrong with the text behind the content
is objected to last. -/
def readDocument (d : Document) : Reading Config := do
  let config ← readRoot d d.root
  match d.brokenOff.or d.behind with
  | some fault => .error (.text fault)
  | none => .ok config

end AdminPort.Config.Schema
