import AdminPort.Address
import AdminPort.Text.Numeral

/-!
# Reading socket addresses

A dotted address is four decimal octets without leading zeros. An address in
brackets is eight groups of at most four hexadecimal digits; its last two groups
may be written as octets, and one run of zero groups may be left out between two
colons. A percent sign introduces a decimal scope. The port follows a colon and
may have leading zeros.

Each reader takes what it can from the front of a text and returns the rest.
-/

namespace AdminPort.Address

/-- A reader takes a value from the front of a text. -/
abbrev Reader (α : Type) := List Char → Option (α × List Char)

/-- How a numeral may be written, and the bound that it stays below. -/
structure NumeralRule where
  radix : Nat
  maxDigits : Option Nat
  leadingZeros : Bool
  bound : Nat

/-- An octet: up to three decimal digits without leading zeros. -/
def octetRule : NumeralRule := ⟨10, some 3, false, UInt8.size⟩

/-- A group: up to four hexadecimal digits. -/
def groupRule : NumeralRule := ⟨16, some 4, true, UInt16.size⟩

/-- A port: any number of decimal digits. -/
def portRule : NumeralRule := ⟨10, none, true, UInt16.size⟩

/-- A scope: any number of decimal digits. -/
def scopeRule : NumeralRule := ⟨10, none, true, UInt32.size⟩

/-- Whether digits are of the form that a rule asks for. -/
def NumeralRule.admits (rule : NumeralRule) (digits : List Char) : Bool :=
  rule.maxDigits.all (digits.length ≤ ·) &&
    (rule.leadingZeros || digits.length ≤ 1 || digits.head? != some '0')

/-- All digits at the front of a text, as a number. -/
def readNumeral (rule : NumeralRule) : Reader Nat := fun s =>
  let isDigit c := (Text.Numeral.digit? rule.radix c).isSome
  let digits := s.takeWhile isDigit
  if rule.admits digits then
    (Text.Numeral.readNat rule.radix digits).bind fun n =>
      if n < rule.bound then some (n, s.dropWhile isDigit) else none
  else none

/-- A given character. -/
def readChar (c : Char) : Reader Unit
  | [] => none
  | x :: rest => if x = c then some ((), rest) else none

/-- Four octets between dots. -/
def readOctets : Reader Octets := fun s => do
  let (a, s) ← readNumeral octetRule s
  let (_, s) ← readChar '.' s
  let (b, s) ← readNumeral octetRule s
  let (_, s) ← readChar '.' s
  let (c, s) ← readNumeral octetRule s
  let (_, s) ← readChar '.' s
  let (d, s) ← readNumeral octetRule s
  return (⟨.ofNat a, .ofNat b, .ofNat c, .ofNat d⟩, s)

/-- A run of groups: the groups, whether octets ended it, and the rest. -/
structure GroupRun where
  groups : List UInt16
  octets : Bool
  rest : List Char

/-- As many groups as there are, up to the given room. Every group but the first
has a colon in front; octets need room for two groups and end the run. -/
def readGroups : Bool → Nat → List Char → GroupRun
  | _, 0, s => ⟨[], false, s⟩
  | first, room + 1, s =>
    match if first then some ((), s) else readChar ':' s with
    | none => ⟨[], false, s⟩
    | some (_, body) =>
      match if room = 0 then none else readOctets body with
      | some (octets, rest) => ⟨octets.asGroups, true, rest⟩
      | none =>
        match readNumeral groupRule body with
        | none => ⟨[], false, s⟩
        | some (g, rest) =>
          let run := readGroups false room rest
          { run with groups := .ofNat g :: run.groups }

/-- Eight groups in all, the left-out ones zero. -/
def fillGroups (front back : List UInt16) : Option Groups :=
  let list := front ++ List.replicate (8 - front.length - back.length) 0 ++ back
  if h : list.length = 8 then some ⟨list, h⟩ else none

/-- Eight groups, or two runs of fewer around two colons. Octets may stand only
at the very end. -/
def readAllGroups : Reader Groups := fun s => do
  let front := readGroups true 8 s
  if front.groups.length = 8 then
    return (← fillGroups front.groups [], front.rest)
  else if front.octets then none
  else
    let (_, s) ← readChar ':' front.rest
    let (_, s) ← readChar ':' s
    let back := readGroups true (7 - front.groups.length) s
    return (← fillGroups front.groups back.groups, back.rest)

/-- A scope behind a percent sign; without one the scope is 0. -/
def readScope (s : List Char) : Nat × List Char :=
  let scope? := (readChar '%' s).bind fun (_, s) => readNumeral scopeRule s
  scope?.getD (0, s)

/-- A port behind a colon. -/
def readPort : Reader UInt16 := fun s => do
  let (_, s) ← readChar ':' s
  let (port, s) ← readNumeral portRule s
  return (.ofNat port, s)

/-- Octets and a port. -/
def readV4 : Reader Address := fun s => do
  let (octets, s) ← readOctets s
  let (port, s) ← readPort s
  return (.v4 octets port, s)

/-- Groups and a scope between brackets, and a port. -/
def readV6 : Reader Address := fun s => do
  let (_, s) ← readChar '[' s
  let (groups, s) ← readAllGroups s
  let (scope, s) := readScope s
  let (_, s) ← readChar ']' s
  let (port, s) ← readPort s
  return (.v6 groups (.ofNat scope) port, s)

/-- The address that a text is, all of it. -/
def ofString? (text : String) : Option Address :=
  match (readV4 text.toList).orElse fun _ => readV6 text.toList with
  | some (address, []) => some address
  | _ => none

/-- What is said about a text that is no address. -/
def invalidMessage : String := "invalid socket address syntax"

end AdminPort.Address
