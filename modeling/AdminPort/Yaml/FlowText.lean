import AdminPort.Text.Numeral
import AdminPort.Yaml.Source

/-!
# Plain and quoted texts

A text that is written in the flow of a document may run over several lines.
Blanks inside a line are kept; around a line end they are dropped, a single line
end becomes a space, and of several the first is dropped and the others are kept.

* A plain text has no quotes. It ends at a comment, at a mapping colon, at the
  indicators of a flow collection when it stands in one, and at a line that is
  not indented far enough.
* Between single quotes a quote is written twice.
* Between double quotes a backslash introduces an escape; before a line end it
  joins the lines without a space.
-/

namespace AdminPort.Yaml

/-- Blanks and line ends since the last word of a text. -/
inductive Gap where
  | none
  | blanks (reversed : List Char)
  /-- A first line end and those after it. -/
  | breaks (first : Char) (more : List Char)
  /-- An escaped line end and the line ends after it. -/
  | joined (more : List Char)
deriving DecidableEq, Repr

namespace Gap

/-- A gap with one more blank. -/
def blank (c : Char) : Gap → Gap
  | none => blanks [c]
  | blanks cs => blanks (c :: cs)
  | gap => gap

/-- A gap with one more line end. -/
def lineEnd (c : Char) : Gap → Gap
  | none => breaks c []
  | blanks _ => breaks c []
  | breaks first more => breaks first (more ++ [c])
  | joined more => joined (more ++ [c])

/-- Whether a gap runs over a line end. -/
def crossesLine : Gap → Bool
  | breaks .. => true
  | joined .. => true
  | _ => false

/-- What a gap stands for in the text. -/
def fold : Gap → List Char
  | none => []
  | blanks cs => cs.reverse
  | breaks '\n' [] => [' ']
  | breaks '\n' more => more
  | breaks first more => first :: more
  | joined more => more

end Gap

/-- A text and where it ends; the gap in front of its end has been passed over. -/
structure FlowText where
  text : List Char
  after : Cursor
  crossedLine : Bool
deriving Repr

/-- A text in reverse with the gap behind it. -/
def reverseFold (acc : List Char) (gap : Gap) : List Char := gap.fold.reverse ++ acc

/-! ## Plain texts -/

/-- The indicators that end a plain text in a flow collection. -/
def isFlowIndicator (c : Char) : Bool := [',', '[', ']', '\x7b', '\x7d'].contains c

/-- Where a plain text stands: in a flow collection or not, and the least column
of its lines. -/
structure PlainContext where
  inFlow : Bool
  column : Nat
deriving Repr

/-- Whether a plain text ends in front of a character that is no blank. -/
def PlainContext.stops (ctx : PlainContext) (gap : Gap) (m : Mark) (c : Char) (rest : List Char) :
    Bool :=
  (gap != .none && (c == '#' || (!ctx.inFlow && m.column < ctx.column) ||
      (m.column == 0 && (documentMark? (c :: rest)).isSome))) ||
    (c == ':' && endsWord rest) || (ctx.inFlow && isFlowIndicator c)

/-- Whether a colon stands where a flow collection has no place for it. -/
def PlainContext.misplacedColon (ctx : PlainContext) (c : Char) (rest : List Char) : Bool :=
  ctx.inFlow && c == ':' && rest.head?.any fun d => isFlowIndicator d || d == '?'

/-- Whether a tab stands where the indentation of a line has to be. -/
def PlainContext.misplacedTab (ctx : PlainContext) (gap : Gap) (m : Mark) (c : Char) : Bool :=
  gap.crossesLine && m.column < ctx.column && c == '\t'

/-- A plain text behind the part of it that was read. -/
def readPlain (ctx : PlainContext) : List Char → Gap → Mark → List Char → Option FlowText
  | acc, gap, m, [] => some ⟨acc.reverse, ⟨[], m⟩, gap.crossesLine⟩
  | acc, gap, m, c :: rest =>
    if isGap c then
      if ctx.misplacedTab gap m c then none else readPlain ctx acc (gap.blank c) (m.past c) rest
    else if isBreak c then readPlain ctx acc (gap.lineEnd c) (m.past c) rest
    else if ctx.misplacedColon c rest then none
    else if ctx.stops gap m c rest then some ⟨acc.reverse, ⟨c :: rest, m⟩, gap.crossesLine⟩
    else readPlain ctx (c :: reverseFold acc gap) .none (m.past c) rest

/-! ## Quoted texts -/

/-- Whether a document begins or ends inside the quotes. -/
def breaksOff (m : Mark) (s : List Char) : Bool :=
  m.column == 0 && (documentMark? s).isSome

/-- A text up to its closing single quote. -/
def readSingleQuoted : List Char → Gap → Mark → List Char → Option FlowText
  | _, _, _, [] => none
  | acc, gap, m, c :: rest =>
    if isGap c then readSingleQuoted acc (gap.blank c) (m.past c) rest
    else if isBreak c then readSingleQuoted acc (gap.lineEnd c) (m.past c) rest
    else if breaksOff m (c :: rest) then none
    else if c == '\'' then
      match rest with
      | '\'' :: rest =>
        readSingleQuoted ('\'' :: reverseFold acc gap) .none ((m.past c).past c) rest
      | _ => some ⟨(reverseFold acc gap).reverse, ⟨rest, m.past c⟩, false⟩
    else readSingleQuoted (c :: reverseFold acc gap) .none (m.past c) rest

/-- The character that an escape of one letter stands for. -/
def escaped? (c : Char) : Option Char :=
  match c with
  | '0' => some '\x00'
  | 'a' => some '\x07'
  | 'b' => some '\x08'
  | 't' => some '\t'
  | '\t' => some '\t'
  | 'n' => some '\n'
  | 'v' => some '\x0b'
  | 'f' => some '\x0c'
  | 'r' => some '\r'
  | 'e' => some '\x1b'
  | ' ' => some ' '
  | '"' => some '"'
  | '/' => some '/'
  | '\\' => some '\\'
  | 'N' => some '\x85'
  | '_' => some '\xa0'
  | 'L' => some '\u2028'
  | 'P' => some '\u2029'
  | _ => none

/-- The number of hexadecimal digits of an escape by code point. -/
def codeLength? (c : Char) : Option Nat :=
  match c with
  | 'x' => some 2
  | 'u' => some 4
  | 'U' => some 8
  | _ => none

/-- The character with a code point, if there is one. -/
def charOfCode? (n : Nat) : Option Char :=
  if n.isValidChar then some (Char.ofNat n) else none

/-- What a double-quoted text is in the middle of. -/
inductive QuoteState where
  | text
  | escape
  /-- The digits still to come but one, and the value so far. -/
  | code (left value : Nat)
deriving DecidableEq, Repr

/-- A text up to its closing double quote. -/
def readDoubleQuoted : List Char → Gap → QuoteState → Mark → List Char → Option FlowText
  | _, _, _, _, [] => none
  | acc, gap, .code left value, m, c :: rest => do
    let value := value * 16 + (← Text.Numeral.digit? 16 c)
    match left with
    | 0 => readDoubleQuoted ((← charOfCode? value) :: acc) gap .text (m.past c) rest
    | left + 1 => readDoubleQuoted acc gap (.code left value) (m.past c) rest
  | acc, _, .escape, m, c :: rest =>
    if isBreak c then readDoubleQuoted acc (.joined []) .text (m.past c) rest
    else
      match escaped? c, codeLength? c with
      | some x, _ => readDoubleQuoted (x :: acc) .none .text (m.past c) rest
      | none, some length => readDoubleQuoted acc .none (.code (length - 1) 0) (m.past c) rest
      | none, none => none
  | acc, gap, .text, m, c :: rest =>
    if isGap c then readDoubleQuoted acc (gap.blank c) .text (m.past c) rest
    else if isBreak c then readDoubleQuoted acc (gap.lineEnd c) .text (m.past c) rest
    else if breaksOff m (c :: rest) then none
    else if c == '"' then some ⟨(reverseFold acc gap).reverse, ⟨rest, m.past c⟩, false⟩
    else if c == '\\' then
      readDoubleQuoted (reverseFold acc gap) .none .escape (m.past c) rest
    else readDoubleQuoted (c :: reverseFold acc gap) .none .text (m.past c) rest

end AdminPort.Yaml
