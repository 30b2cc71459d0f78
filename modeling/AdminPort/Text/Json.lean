/-!
# JSON text

The string literals and flat objects of JSON in their compact form: a string is
escaped only where the format asks for it, an object lists its members without
spaces.
-/

namespace AdminPort.Text.Json

/-- A hexadecimal digit in lower case. -/
def hexDigit (n : Nat) : Char :=
  Nat.digitChar (n % 16)

/-- One character inside a string literal: the quote, the backslash and the
controls are escaped, everything else stands for itself. -/
def encodeChar (c : Char) : List Char :=
  match c with
  | '"' => ['\\', '"']
  | '\\' => ['\\', '\\']
  | '\x08' => ['\\', 'b']
  | '\x0c' => ['\\', 'f']
  | '\n' => ['\\', 'n']
  | '\r' => ['\\', 'r']
  | '\t' => ['\\', 't']
  | _ =>
    if c.toNat < 0x20 then
      ['\\', 'u', '0', '0', hexDigit (c.toNat / 16), hexDigit c.toNat]
    else [c]

/-- A text as it stands between the quotes of a literal. -/
def body (s : List Char) : List Char :=
  s.flatMap encodeChar

/-- A value that a member of a flat object may have. -/
inductive Value where
  | text (s : String)
  | number (n : Nat)
deriving DecidableEq, Repr

/-- A string literal. -/
def literal (s : String) : List Char :=
  '"' :: body s.toList ++ ['"']

/-- The written form of a value. -/
def Value.write : Value → List Char
  | .text s => literal s
  | .number n => Nat.toDigits 10 n

/-- The written form of a member. -/
def member (m : String × Value) : List Char :=
  literal m.1 ++ ':' :: m.2.write

/-- The written form of a flat object, members in the given order. -/
def object (members : List (String × Value)) : String :=
  String.ofList ('\x7b' :: [','].intercalate (members.map member) ++ ['\x7d'])

end AdminPort.Text.Json
