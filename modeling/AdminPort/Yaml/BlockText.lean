import AdminPort.Yaml.Source

/-!
# Block texts

A text that is set off by its indentation. A header says whether its lines are
kept or folded, what becomes of the line ends behind the last line, and, if it
wants to, how far the text is indented; otherwise the first line that is not
empty decides.
-/

namespace AdminPort.Yaml

/-- What becomes of the line ends behind the last line. -/
inductive Chomping where
  | strip
  | clip
  | keep
deriving DecidableEq, Repr

/-- The header of a block text. -/
structure BlockHeader where
  chomping : Chomping := .clip
  /-- The indentation within the surrounding block, if it is given. -/
  indent : Option Nat := none
deriving DecidableEq, Repr

/-- A sign for the treatment of the last line ends. -/
def chomping? : List Char → Option (Chomping × List Char)
  | '+' :: rest => some (.keep, rest)
  | '-' :: rest => some (.strip, rest)
  | _ => none

/-- A digit for the indentation; there is none of width 0. -/
def indentDigit? : List Char → Option (Option Nat × List Char)
  | c :: rest =>
    if c == '0' then none
    else if '1' ≤ c && c ≤ '9' then some (some (c.toNat - '0'.toNat), rest)
    else some (none, c :: rest)
  | [] => some (none, [])

/-- Both signs of a header, in either order. -/
def readBlockSigns (s : List Char) : Option (BlockHeader × List Char) :=
  match chomping? s with
  | some (chomping, rest) =>
    (indentDigit? rest).map fun (indent, rest) => ({ chomping, indent }, rest)
  | none =>
    (indentDigit? s).map fun (indent, rest) =>
      match indent.bind fun _ => chomping? rest with
      | some (chomping, rest) => ({ chomping, indent }, rest)
      | none => ({ indent }, rest)

/-- The lines of a block text that were read so far. -/
structure BlockText where
  /-- The text in reverse, up to the last line end. -/
  acc : List Char := []
  /-- The line end of the last line. -/
  lineEnd : List Char := []
  /-- The line ends of the empty lines after it. -/
  empty : List Char := []
  /-- The last line began with a blank. -/
  blankLine : Bool := false
deriving Repr

namespace BlockText

/-- The text in front of a new line: when lines are folded, the line end between
two lines that both begin with a word is dropped, or becomes a space if no empty
line follows it. -/
def joinLine (t : BlockText) (folded blank : Bool) : List Char :=
  let joined :=
    if folded && t.lineEnd == ['\n'] && !t.blankLine && !blank then
      if t.empty.isEmpty then ' ' :: t.acc else t.acc
    else t.lineEnd.reverse ++ t.acc
  t.empty.reverse ++ joined

/-- The whole text once it has ended. -/
def chomp (t : BlockText) : Chomping → List Char
  | .strip => t.acc.reverse
  | .clip => t.acc.reverse ++ t.lineEnd
  | .keep => t.acc.reverse ++ t.lineEnd ++ t.empty

end BlockText

/-- The indentation of a block text: given, or sought with the widest line so far. -/
inductive BlockIndent where
  | given (column : Nat)
  | sought (widest : Nat)
deriving DecidableEq, Repr

/-- Whether a column may still belong to the indentation. -/
def BlockIndent.covers (indent : BlockIndent) (column : Nat) : Bool :=
  match indent with
  | given width => column < width
  | sought _ => true

/-- The indentation with one more line taken into account. -/
def BlockIndent.widen (indent : BlockIndent) (column : Nat) : BlockIndent :=
  match indent with
  | given width => given width
  | sought widest => sought (max widest column)

/-- The indentation that a text has at its first line that is not empty. -/
def BlockIndent.settle (indent : BlockIndent) (least : Nat) : Nat :=
  match indent with
  | given width => width
  | sought widest => max widest least

/-- A block text behind the part of it that was read, either inside a line or in
the indentation in front of one. A block text has at least the column `least`. -/
def readBlockLines (folded : Bool) (least : Nat) :
    BlockText → Option BlockIndent → Nat → Mark → List Char → Option (BlockText × Cursor)
  | t, _, _, m, [] => some (t, ⟨[], m⟩)
  | t, none, width, m, c :: rest =>
    if isBreak c then
      readBlockLines folded least { t with lineEnd := [c] } (some (.given width)) width (m.past c)
        rest
    else readBlockLines folded least { t with acc := c :: t.acc } none width (m.past c) rest
  | t, some indent, width, m, c :: rest =>
    if indent.covers m.column && c == ' ' then
      readBlockLines folded least t (some indent) width (m.past c) rest
    else if indent.covers m.column && c == '\t' then none
    else if isBreak c then
      readBlockLines folded least { t with empty := t.empty ++ [c] } (some (indent.widen m.column))
        width (m.past c) rest
    else
      let width := (indent.widen m.column).settle least
      if m.column == width then
        readBlockLines folded least
          { acc := c :: t.joinLine folded (isGap c), blankLine := isGap c } none width (m.past c)
          rest
      else some (t, ⟨c :: rest, m⟩)

/-- A block text behind its indicator: the header, the rest of its line, and the
lines. `outer` is the indentation of the surrounding block. -/
def readBlock (folded : Bool) (outer : Option Nat) (c : Cursor) : Option (List Char × Cursor) := do
  let (header, rest) ← readBlockSigns c.rest
  let behind := (c.upTo rest).skipWhile isGap
  let lineEnd := if behind.rest.head? == some '#' then behind.skipWhile (!isBreak ·) else behind
  if lineEnd.rest.head?.any (!isBreak ·) then none
  else
    let start := lineEnd.advance
    let least := (outer.map (· + 1)).getD 0
    let indent : BlockIndent := match header.indent with
      | some width => .given (outer.getD 0 + width)
      | none => .sought 0
    let (text, after) ← readBlockLines folded (max least 1) {} (some indent) 0 start.mark start.rest
    return (text.chomp header.chomping, after)

end AdminPort.Yaml
