import AdminPort.Text.Numeral
import AdminPort.Yaml.Source

/-!
# Tags and directives

A tag is a handle and a suffix, or an address between angle brackets. Octets of
an address may be written as two hexadecimal digits behind a percent sign; they
have to make up whole characters. Such an octet is read as the character with its
number: only addresses in ASCII have a meaning, and those are read right.

Each reader takes what it can from the front of a text and returns the rest.
-/

namespace AdminPort.Yaml

/-- The characters of an address; between brackets there are three more. -/
def isUriChar (bracketed : Bool) (c : Char) : Bool :=
  isNameChar c || ";/?:@&=+$.!~*'()".toList.contains c || (bracketed && [',', '[', ']'].contains c)

/-- The number of octets of the character that an octet begins. -/
def octetsFrom? (octet : Nat) : Option Nat :=
  if octet < 0x80 then some 1
  else if octet / 32 == 6 then some 2
  else if octet / 16 == 14 then some 3
  else if octet / 8 == 30 then some 4
  else none

/-- Whether an octet continues a character. -/
def continuesChar (octet : Nat) : Bool := octet / 64 == 2

/-- An address; `pending` octets of a character have still to come. -/
def readUri (bracketed : Bool) : Nat → List Char → Option (List Char × List Char)
  | pending, '%' :: high :: low :: rest => do
    let octet := (← Text.Numeral.digit? 16 high) * 16 + (← Text.Numeral.digit? 16 low)
    let pending ← match pending with
      | 0 => (octetsFrom? octet).map (· - 1)
      | pending + 1 => if continuesChar octet then some pending else none
    let (text, rest) ← readUri bracketed pending rest
    return (Char.ofNat octet :: text, rest)
  | pending, s@(c :: rest) =>
    if pending != 0 || c == '%' then none
    else if isUriChar bracketed c then
      (readUri bracketed 0 rest).map fun (text, rest) => (c :: text, rest)
    else some ([], s)
  | pending, [] => if pending == 0 then some ([], []) else none

/-- The text of an address; a zero octet ends it. -/
def addressText (uri : List Char) : String := String.ofList (uri.takeWhile (· != '\x00'))

/-- A handle: an exclamation mark, a name that may be missing, and a second mark
if there is one. -/
def readHandle : List Char → Option (List Char × List Char)
  | '!' :: rest =>
    let name := rest.takeWhile isNameChar
    match rest.dropWhile isNameChar with
    | '!' :: rest => some ('!' :: name ++ ['!'], rest)
    | rest => some ('!' :: name, rest)
  | _ => none

/-- Whether a handle has a second mark, so that a suffix follows it. -/
def isFullHandle (handle : List Char) : Bool :=
  2 ≤ handle.length && handle.getLast? == some '!'

/-- A tag: an address between angle brackets, a suffix behind a full handle, or a
suffix behind a single mark. A mark that stands alone is a suffix of its own. -/
def readTag (s : List Char) : Option ((String × String) × List Char) :=
  match s with
  | '!' :: '<' :: rest => do
    let (uri, rest) ← readUri true 0 rest
    match uri, rest with
    | _ :: _, '>' :: rest => some (("", addressText uri), rest)
    | _, _ => none
  | _ => do
    let (handle, rest) ← readHandle s
    let (more, rest) ← readUri false 0 rest
    if isFullHandle handle then
      if more.isEmpty then none else some ((String.ofList handle, addressText more), rest)
    else
      let suffix := handle.tail ++ more
      if suffix.isEmpty then some (("", "!"), rest) else some (("!", addressText suffix), rest)

/-- A numeral of a version: one to nine digits. -/
def readVersionNumber (s : List Char) : Option (Nat × List Char) :=
  let digits := s.takeWhile Char.isDigit
  if digits.length ≤ 9 then
    (Text.Numeral.readNat 10 digits).map (·, s.dropWhile Char.isDigit)
  else none

/-- A directive behind its percent sign. -/
inductive Directive where
  | version (major minor : Nat)
  | tag (handle uri : String)
deriving DecidableEq, Repr

/-- A version behind the name of its directive. -/
def readVersion (s : List Char) : Option (Directive × List Char) := do
  let (major, rest) ← readVersionNumber (s.dropWhile isGap)
  match rest with
  | '.' :: rest =>
    let (minor, rest) ← readVersionNumber rest
    return (.version major minor, rest)
  | _ => none

/-- A handle and the address that it stands for, behind the name of their directive. -/
def readTagDirective (s : List Char) : Option (Directive × List Char) := do
  let (handle, rest) ← readHandle (s.dropWhile isGap)
  if !(handle == ['!'] || isFullHandle handle) || !rest.head?.any isGap then none
  else
    let (uri, rest) ← readUri true 0 (rest.dropWhile isGap)
    if uri.isEmpty || !endsWord rest then none
    else return (.tag (String.ofList handle) (addressText uri), rest)

/-- A directive behind its percent sign. -/
def readDirective (s : List Char) : Option (Directive × List Char) :=
  let name := s.takeWhile isNameChar
  let rest := s.dropWhile isNameChar
  if !endsWord rest then none
  else if name == "YAML".toList then readVersion rest
  else if name == "TAG".toList then readTagDirective rest
  else none

end AdminPort.Yaml
