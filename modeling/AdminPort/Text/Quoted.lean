import AdminPort.Text.Numeral
import AdminPort.Text.Unprintable

/-!
# Quoted text

A text between double quotes, as it is shown in messages: the quote, the
backslash and the common controls have an escape of two characters, every other
unprintable character is shown as its code point, the rest stands for itself.
-/

namespace AdminPort.Text.Quoted

/-- One character inside the quotes. -/
def encodeChar (c : Char) : List Char :=
  match c with
  | '\x00' => ['\\', '0']
  | '\t' => ['\\', 't']
  | '\n' => ['\\', 'n']
  | '\r' => ['\\', 'r']
  | '"' => ['\\', '"']
  | '\\' => ['\\', '\\']
  | _ =>
    if isUnprintable c then
      ['\\', 'u', '\x7b'] ++ Nat.toDigits 16 c.toNat ++ ['\x7d']
    else [c]

/-- A text as it stands between the quotes. -/
def body (s : List Char) : List Char :=
  s.flatMap encodeChar

/-- A text between double quotes. -/
def quote (s : String) : String :=
  String.ofList ('"' :: body s.toList ++ ['"'])

/-- Texts between double quotes, listed in brackets. -/
def quoteList (texts : List String) : String :=
  "[" ++ String.intercalate ", " (texts.map quote) ++ "]"

end AdminPort.Text.Quoted
