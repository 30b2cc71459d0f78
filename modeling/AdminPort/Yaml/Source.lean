/-!
# The text of a document

A document is read from characters with a place each. Controls other than the
tab and the line ends are refused. The line ends of all systems count as one
line feed; the line and paragraph separators end a line too, but stay what they
are.
-/

namespace AdminPort.Yaml

/-- A place in a text; lines and columns count from 0. -/
structure Mark where
  line : Nat
  column : Nat
deriving DecidableEq, Repr

/-- The characters that a document may be written in. -/
def isAllowed (c : Char) : Bool :=
  c == '\t' || c == '\n' || c == '\r' || (' ' ≤ c && c ≤ '~') || c == '\x85' ||
    ('\xa0' ≤ c && c.toNat ≤ 0xFFFD) || 0x10000 ≤ c.toNat

/-- The characters that end a line. -/
def isBreak (c : Char) : Bool := c == '\n' || c == '\u2028' || c == '\u2029'

/-- The characters that separate words in a line. -/
def isGap (c : Char) : Bool := c == ' ' || c == '\t'

/-- Whether a word ends in front of a text. -/
def endsWord : List Char → Bool
  | [] => true
  | c :: _ => isGap c || isBreak c

/-- The characters of names: letters, digits, the hyphen and the underscore. -/
def isNameChar (c : Char) : Bool :=
  ('0' ≤ c && c ≤ '9') || ('A' ≤ c && c ≤ 'Z') || ('a' ≤ c && c ≤ 'z') || c == '-' || c == '_'

/-- The line ends of all systems as one line feed. -/
def unifyBreaks : List Char → List Char
  | [] => []
  | '\r' :: '\n' :: rest => '\n' :: unifyBreaks rest
  | c :: rest => (if c == '\r' || c == '\x85' then '\n' else c) :: unifyBreaks rest

/-- The place behind a character. -/
def Mark.past (m : Mark) (c : Char) : Mark :=
  if isBreak c then ⟨m.line + 1, 0⟩ else ⟨m.line, m.column + 1⟩

/-- What is left of a text, and where it begins. -/
structure Cursor where
  rest : List Char
  mark : Mark
deriving DecidableEq, Repr

namespace Cursor

/-- The beginning of a text that may be a document. -/
def ofText? (text : String) : Option Cursor :=
  if text.toList.all isAllowed then some ⟨unifyBreaks text.toList, ⟨0, 0⟩⟩ else none

/-- Behind the next character. -/
def advance (c : Cursor) : Cursor :=
  match c.rest with
  | [] => c
  | x :: rest => ⟨rest, c.mark.past x⟩

/-- Further on in the same line, in front of a given rest. -/
def upTo (c : Cursor) (rest : List Char) : Cursor :=
  ⟨rest, ⟨c.mark.line, c.mark.column + (c.rest.length - rest.length)⟩⟩

/-- Behind a run of characters of one line. -/
def skipWhile (c : Cursor) (p : Char → Bool) : Cursor := c.upTo (c.rest.dropWhile p)

end Cursor

/-- The two marks between documents. -/
inductive DocumentMark where
  | begin
  | finish
deriving DecidableEq, Repr

/-- The document mark at the front of a line, if there is one. -/
def documentMark? : List Char → Option (DocumentMark × List Char)
  | '-' :: '-' :: '-' :: rest => if endsWord rest then some (.begin, rest) else none
  | '.' :: '.' :: '.' :: rest => if endsWord rest then some (.finish, rest) else none
  | _ => none

end AdminPort.Yaml
