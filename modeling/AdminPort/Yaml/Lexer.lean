import AdminPort.Yaml.BlockText
import AdminPort.Yaml.FlowText
import AdminPort.Yaml.Tag
import AdminPort.Yaml.Token

/-!
# From text to tokens

A key of a mapping needs no sign of its own: a scalar, an alias or a flow
collection is a key if a colon follows it in the same line, not too far away.
So a token in front of which a key may still begin waits in a queue until that is
decided. A place where the surrounding block demands a key is an error when the
key does not come.

Blocks begin where a line is indented further than the block around it, and end
where a line is indented less. Inside flow collections indentation means nothing.
-/

namespace AdminPort.Yaml

/-- A place where a key may begin. -/
structure PendingKey where
  /-- The surrounding block demands a key here. -/
  required : Bool
  /-- The number of the token that the key would begin with. -/
  number : Nat
  mark : Mark
deriving DecidableEq, Repr

/-- The reading of a text under way. -/
structure Lexer where
  cursor : Cursor
  /-- Tokens that were read and not handed out yet. -/
  queue : List Token := []
  /-- The number of tokens handed out. -/
  taken : Nat := 0
  /-- The columns of the open blocks, innermost first. -/
  blocks : List Nat := []
  /-- A key may begin here. -/
  keyAllowed : Bool := true
  /-- The place where a key may have begun, in the innermost collection. -/
  key : Option PendingKey := none
  /-- The same for the collections around each open flow collection. -/
  outerKeys : List (Option PendingKey) := []
  ended : Bool := false
deriving Repr

namespace Lexer

/-- Whether a flow collection is open. -/
def inFlow (l : Lexer) : Bool := !l.outerKeys.isEmpty

/-- The place of the next character. -/
def mark (l : Lexer) : Mark := l.cursor.mark

/-- One more token that was read. -/
def push (l : Lexer) (kind : TokenKind) (start stop : Mark) : Lexer :=
  { l with queue := l.queue ++ [⟨kind, start, stop⟩] }

/-- One more token, in front of the one with a given number. -/
def insert (l : Lexer) (number : Nat) (kind : TokenKind) (mark : Mark) : Lexer :=
  let place := number - l.taken
  { l with queue := l.queue.take place ++ ⟨kind, mark, mark⟩ :: l.queue.drop place }

/-- The number of the next token that is read. -/
def nextNumber (l : Lexer) : Nat := l.taken + l.queue.length

/-! ## Keys -/

/-- The farthest that a colon may be from the beginning of its key. -/
def maxKey : Nat := 1024

/-- Whether a key can no longer be one at a place. -/
def isStale (k : PendingKey) (m : Mark) : Bool :=
  k.mark.line < m.line || k.mark.column + maxKey < m.column

/-- A pending key, forgotten if it is stale; the key of a block that demands one
must not become stale. -/
def refresh (m : Mark) (key : Option PendingKey) : Option (Option PendingKey) :=
  match key with
  | none => some none
  | some k => if isStale k m then (if k.required then none else some none) else some (some k)

/-- The lexer without stale keys. -/
def dropStaleKeys (l : Lexer) : Option Lexer := do
  return { l with
    key := ← refresh l.mark l.key
    outerKeys := ← l.outerKeys.mapM (refresh l.mark) }

/-- The lexer without the pending key, which must not be demanded. -/
def dropKey (l : Lexer) : Option Lexer :=
  if l.key.any (·.required) then none else some { l with key := none }

/-- The lexer with a pending key at the next token, where one is allowed. -/
def saveKey (l : Lexer) : Option Lexer :=
  if l.keyAllowed then do
    let required := !l.inFlow && l.blocks.head? == some l.mark.column
    let key : PendingKey := ⟨required, l.nextNumber, l.mark⟩
    return { ← l.dropKey with key := some key }
  else some l

/-! ## Blocks -/

/-- A block begun at a column, unless one at this column or farther is open. -/
def openBlock (l : Lexer) (column number : Nat) (kind : TokenKind) (mark : Mark) : Lexer :=
  if l.inFlow || l.blocks.head?.any (column ≤ ·) then l
  else { l.insert number kind mark with blocks := column :: l.blocks }

/-- The blocks ended that reach beyond a column; all of them if there is none. -/
def closeBlocks (l : Lexer) (column : Option Nat) : Lexer :=
  if l.inFlow then l
  else
    let ends (block : Nat) := column.all (· < block)
    let finished := (l.blocks.takeWhile ends).map fun _ => Token.mk .blockFinish l.mark l.mark
    { l with queue := l.queue ++ finished, blocks := l.blocks.dropWhile ends }

/-! ## Between tokens -/

/-- What lies between tokens: blanks, comments and line ends, and a byte order
mark at the beginning of a line. A tab is no indentation. Outside of flow
collections a key may begin in a new line. -/
def skipGap (inFlow : Bool) : Bool → Bool → Mark → List Char → Cursor × Bool
  | keyAllowed, _, m, [] => (⟨[], m⟩, keyAllowed)
  | keyAllowed, comment, m, c :: rest =>
    if isBreak c then skipGap inFlow (keyAllowed || !inFlow) false (m.past c) rest
    else if comment || c == ' ' || (c == '\t' && (inFlow || !keyAllowed)) ||
        (c == '\ufeff' && m.column == 0) then
      skipGap inFlow keyAllowed comment (m.past c) rest
    else if c == '#' then skipGap inFlow keyAllowed true (m.past c) rest
    else (⟨c :: rest, m⟩, keyAllowed)

/-! ## Tokens one by one -/

/-- A token of one character. -/
def single (l : Lexer) (kind : TokenKind) : Lexer :=
  let after := l.cursor.advance
  { l.push kind l.mark after.mark with cursor := after }

/-- The end of the text. -/
def readEnd (l : Lexer) : Option Lexer := do
  let mark := if l.mark.column = 0 then l.mark else ⟨l.mark.line + 1, 0⟩
  let l := { l with cursor := ⟨[], mark⟩ }
  let l ← (l.closeBlocks none).dropKey
  return { l.push .streamEnd mark mark with keyAllowed := false, ended := true }

/-- A line that belongs to no document: nothing of a block goes on behind it. -/
def readOutside (l : Lexer) (kind : TokenKind) (after : Cursor) : Option Lexer := do
  let l ← (l.closeBlocks none).dropKey
  return { l.push kind l.mark after.mark with cursor := after, keyAllowed := false }

/-- A directive with the rest of its line. -/
def readDirectiveLine (l : Lexer) : Option Lexer := do
  let (directive, rest) ← readDirective l.cursor.rest.tail
  let after := (l.cursor.upTo rest).skipWhile isGap
  let after := if after.rest.head? == some '#' then after.skipWhile (!isBreak ·) else after
  if after.rest.head?.any (!isBreak ·) then none
  else
    let kind := match directive with
      | .version major minor => TokenKind.versionDirective major minor
      | .tag handle uri => .tagDirective handle uri
    l.readOutside kind after.advance

/-- The beginning of a flow collection. -/
def openFlow (l : Lexer) (kind : TokenKind) : Option Lexer := do
  let l ← l.saveKey
  return { l.single kind with key := none, outerKeys := l.key :: l.outerKeys, keyAllowed := true }

/-- The end of a flow collection. -/
def closeFlow (l : Lexer) (kind : TokenKind) : Option Lexer := do
  let l ← l.dropKey
  let l := match l.outerKeys with
    | key :: outerKeys => { l with key, outerKeys }
    | [] => l
  return { l.single kind with keyAllowed := false }

/-- The sign between the entries of a flow collection. -/
def readFlowEntry (l : Lexer) : Option Lexer := do
  return { (← l.dropKey).single .flowEntry with keyAllowed := true }

/-- The sign in front of an entry of a block sequence. -/
def readBlockEntry (l : Lexer) : Option Lexer :=
  if !l.inFlow && !l.keyAllowed then none
  else do
    let l ← (l.openBlock l.mark.column l.nextNumber .blockSequenceBegin l.mark).dropKey
    return { l.single .blockEntry with keyAllowed := true }

/-- The sign in front of a key. -/
def readKeySign (l : Lexer) : Option Lexer :=
  if !l.inFlow && !l.keyAllowed then none
  else do
    let l ← (l.openBlock l.mark.column l.nextNumber .blockMappingBegin l.mark).dropKey
    return { l.single .key with keyAllowed := !l.inFlow }

/-- The sign in front of a value: it makes a pending key a key, or stands behind
a key with a sign of its own. -/
def readValueSign (l : Lexer) : Option Lexer :=
  match l.key with
  | some k =>
    let l := l.insert k.number .key k.mark
    let l := l.openBlock k.mark.column k.number .blockMappingBegin k.mark
    some { l.single .value with key := none, keyAllowed := false }
  | none =>
    if !l.inFlow && !l.keyAllowed then none
    else
      let l := l.openBlock l.mark.column l.nextNumber .blockMappingBegin l.mark
      some { l.single .value with keyAllowed := !l.inFlow }

/-- Whether an anchor may end in front of a text. -/
def endsAnchor (s : List Char) : Bool :=
  endsWord s || s.head?.any ("?:,]\x7d%@\x60".toList.contains ·)

/-- A token that may begin a key. -/
def readKeyed (l : Lexer) (kind : TokenKind) (after : Cursor) : Option Lexer := do
  let l ← l.saveKey
  return { l.push kind l.mark after.mark with cursor := after, keyAllowed := false }

/-- An anchor or an alias. -/
def readAnchor (l : Lexer) (kind : String → TokenKind) : Option Lexer :=
  let name := l.cursor.rest.tail.takeWhile isNameChar
  let after := l.cursor.advance.skipWhile isNameChar
  if name.isEmpty || !endsAnchor after.rest then none
  else l.readKeyed (kind (String.ofList name)) after

/-- A tag. -/
def readTagToken (l : Lexer) : Option Lexer := do
  let ((handle, suffix), rest) ← readTag l.cursor.rest
  if endsWord rest || (l.inFlow && rest.head? == some ',') then
    l.readKeyed (.tag handle suffix) (l.cursor.upTo rest)
  else none

/-- A block text. -/
def readBlockScalar (l : Lexer) (style : ScalarStyle) : Option Lexer := do
  let l ← l.dropKey
  let (text, after) ← readBlock (style == .folded) l.blocks.head? l.cursor.advance
  return { l.push (.scalar (String.ofList text) style) l.mark after.mark with
    cursor := after, keyAllowed := true }

/-- A quoted text behind its first quote. -/
def readQuoted (l : Lexer) (style : ScalarStyle) (read : Mark → List Char → Option FlowText) :
    Option Lexer := do
  let start := l.cursor.advance
  let text ← read start.mark start.rest
  l.readKeyed (.scalar (String.ofList text.text) style) text.after

/-- A plain text. A key may begin behind it if it ran over a line end. -/
def readPlainScalar (l : Lexer) : Option Lexer := do
  let ctx : PlainContext := ⟨l.inFlow, (l.blocks.head?.map (· + 1)).getD 0⟩
  let text ← readPlain ctx [] .none l.mark l.cursor.rest
  let l ← l.readKeyed (.scalar (String.ofList text.text) .plain) text.after
  return { l with keyAllowed := text.crossedLine }

/-- The characters that no plain text begins with. -/
def isIndicator (c : Char) : Bool := "-?:,[]\x7b\x7d#&*!|>'\"%@\x60".toList.contains c

/-- Whether a plain text begins with a character in front of a rest. -/
def beginsPlain (inFlow : Bool) (c : Char) (rest : List Char) : Bool :=
  !(isGap c || isBreak c || isIndicator c) || (c == '-' && !rest.head?.any isGap) ||
    (!inFlow && (c == '?' || c == ':') && !endsWord rest)

/-- The token at a character. -/
def readAt (l : Lexer) (c : Char) (rest : List Char) : Option Lexer :=
  let alone := endsWord rest
  match c with
  | '[' => l.openFlow .flowSequenceBegin
  | '\x7b' => l.openFlow .flowMappingBegin
  | ']' => l.closeFlow .flowSequenceFinish
  | '\x7d' => l.closeFlow .flowMappingFinish
  | ',' => l.readFlowEntry
  | '*' => l.readAnchor .alias
  | '&' => l.readAnchor .anchor
  | '!' => l.readTagToken
  | '\'' => l.readQuoted .singleQuoted (readSingleQuoted [] .none)
  | '"' => l.readQuoted .doubleQuoted (readDoubleQuoted [] .none .text)
  | _ =>
    if c == '-' && alone then l.readBlockEntry
    else if c == '?' && (l.inFlow || alone) then l.readKeySign
    else if c == ':' && (l.inFlow || alone) then l.readValueSign
    else if c == '|' && !l.inFlow then l.readBlockScalar .literal
    else if c == '>' && !l.inFlow then l.readBlockScalar .folded
    else if beginsPlain l.inFlow c rest then l.readPlainScalar
    else none

/-- The token at the front of a text, document marks and directives included. -/
def readToken (l : Lexer) : Option Lexer :=
  match l.cursor.rest with
  | [] => l.readEnd
  | c :: rest =>
    if l.mark.column = 0 then
      if c == '%' then l.readDirectiveLine
      else
        match documentMark? (c :: rest) with
        | some (.begin, rest) => l.readOutside .documentBegin (l.cursor.upTo rest)
        | some (.finish, rest) => l.readOutside .documentFinish (l.cursor.upTo rest)
        | none => l.readAt c rest
    else l.readAt c rest

/-- The next token read, behind what lies in front of it and the ends of the
blocks that it does not belong to. -/
def fetch (l : Lexer) : Option Lexer := do
  let (cursor, keyAllowed) := skipGap l.inFlow l.keyAllowed false l.mark l.cursor.rest
  let l ← { l with cursor, keyAllowed }.dropStaleKeys
  (l.closeBlocks (some l.mark.column)).readToken

/-! ## All tokens -/

/-- Whether a key may still begin in front of the first token of the queue. -/
def undecided (l : Lexer) : Bool :=
  (l.key :: l.outerKeys).any fun key => key.any (·.number == l.taken)

/-- The tokens of the queue that are decided, with the lexer behind them. The
lexer is missing if a demanded key did not come. -/
def handOut : Nat → Lexer → List Token × Option Lexer
  | 0, l => ([], some l)
  | n + 1, l =>
    match l.queue with
    | [] => ([], some l)
    | token :: queue =>
      match l.dropStaleKeys with
      | none => ([], none)
      | some l =>
        if l.undecided then ([], some l)
        else
          let (tokens, l) := handOut n { l with queue, taken := l.taken + 1 }
          (token :: tokens, l)

/-- Tokens up to the end of the text or the place where it goes wrong, in at most
so many steps. -/
def run : Nat → Lexer → List Token
  | 0, _ => []
  | n + 1, l =>
    if l.ended then []
    else
      match l.fetch with
      | none => []
      | some l =>
        match handOut l.queue.length l with
        | (tokens, none) => tokens
        | (tokens, some l) => tokens ++ run n l

end Lexer

/-- The tokens of a text, up to its end or the place where it goes wrong. -/
def tokens (text : String) : List Token :=
  match Cursor.ofText? text with
  | none => []
  | some cursor => Lexer.run (cursor.rest.length + 2) { cursor }

end AdminPort.Yaml
