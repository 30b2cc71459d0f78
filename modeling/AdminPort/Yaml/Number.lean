import AdminPort.Decimal.Shortest
import AdminPort.Text.Numeral

/-!
# Numbers in documents

What a plain scalar means as a number. An integer is decimal without leading
zeros, or has two characters in front that name its radix. Any other number is
decimal with a point or an exponent, an infinity, or no number at all.
-/

namespace AdminPort.Yaml

open Text.Numeral (readNat)

/-- Whether digits have leading zeros, so that they are a text and not a number. -/
def hasLeadingZeros (s : List Char) : Bool :=
  let digits := match s with
    | '-' :: rest => rest
    | '+' :: rest => rest
    | _ => s
  2 ≤ digits.length && digits.head? == some '0' && digits.all Char.isDigit

/-- Digits behind two characters that name their radix. -/
def readRadix : List Char → Option Nat
  | '0' :: 'x' :: rest => readNat 16 rest
  | '0' :: 'o' :: rest => readNat 8 rest
  | '0' :: 'b' :: rest => readNat 2 rest
  | _ => none

/-- The size of an integer behind its sign; `s` is the integer with its sign. -/
def readSize (s digits : List Char) : Option Nat :=
  (readRadix digits).orElse fun _ => if hasLeadingZeros s then none else readNat 10 digits

/-- An integer below a bound that is not negative; a plus sign may stand in front. -/
def unsigned? (bound : Nat) (s : List Char) : Option Nat :=
  let digits := match s with
    | '+' :: rest => rest
    | _ => s
  (readSize s digits).filter (· < bound)

/-- The size of an integer with a minus sign, up to a bound. -/
def negative? (bound : Nat) : List Char → Option Nat
  | '-' :: rest => (readSize ('-' :: rest) rest).filter (· ≤ bound)
  | _ => none

/-- A number that is no integer. -/
inductive Real where
  | finite (isNegative : Bool) (size : Decimal.Double)
  | infinite (isNegative : Bool)
  | notANumber
deriving DecidableEq, Repr

/-- The text of a number that is no integer. -/
def Real.text : Real → String
  | finite isNegative size => (if isNegative then "-" else "") ++ size.text
  | infinite isNegative => if isNegative then "-inf" else "inf"
  | notANumber => "NaN"

/-- An exponent behind its letter: digits with a sign if there is one. -/
def readExponent : List Char → Option Int
  | '-' :: rest => (readNat 10 rest).map fun n => -(n : Int)
  | '+' :: rest => (readNat 10 rest).map fun n => (n : Int)
  | rest => (readNat 10 rest).map fun n => (n : Int)

/-- The size of a decimal number: digits, a point among them, and an exponent. -/
def readDecimal (s : List Char) : Option Decimal.Double := do
  let whole := s.takeWhile Char.isDigit
  let behind := s.dropWhile Char.isDigit
  let (part, behind) := match behind with
    | '.' :: rest => (rest.takeWhile Char.isDigit, rest.dropWhile Char.isDigit)
    | _ => ([], behind)
  let exponent ← match behind with
    | [] => some 0
    | 'e' :: rest => readExponent rest
    | 'E' :: rest => readExponent rest
    | _ => none
  let digits ← readNat 10 (whole ++ part)
  Decimal.Double.ofDecimal digits (exponent - part.length)

/-- A number that need not be an integer. -/
def real? (s : List Char) : Option Real :=
  match s with
  | '+' :: rest =>
    if rest.head?.any fun c => c == '+' || c == '-' then none
    else if isInfinity rest then some (.infinite false)
    else (readDecimal rest).map (.finite false)
  | '-' :: rest =>
    if isInfinity rest then some (.infinite true) else (readDecimal rest).map (.finite true)
  | _ =>
    if isInfinity s then some (.infinite false)
    else if [".nan", ".NaN", ".NAN"].contains (String.ofList s) then some .notANumber
    else (readDecimal s).map (.finite false)
where
  /-- The spellings of infinity. -/
  isInfinity (s : List Char) : Bool := [".inf", ".Inf", ".INF"].contains (String.ofList s)

end AdminPort.Yaml
