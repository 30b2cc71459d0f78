/-!
# Numerals

Natural numbers as digits of a radix, in both directions. The writers give the
shortest numeral in lower case; the readers take digits of either case, any
number of leading zeros, and nothing else.

Results:
1. `readNat_cons`: one digit moves the value read so far up by the radix.
-/

namespace AdminPort.Text.Numeral

/-- The shortest decimal numeral. -/
def decimal (n : Nat) : String :=
  String.ofList (Nat.toDigits 10 n)

/-- The shortest hexadecimal numeral, in lower case. -/
def hex (n : Nat) : String :=
  String.ofList (Nat.toDigits 16 n)

/-- The value of a digit of the given radix (at most 36). -/
def digit? (radix : Nat) (c : Char) : Option Nat :=
  let value :=
    if '0' ≤ c ∧ c ≤ '9' then some (c.toNat - '0'.toNat)
    else if 'a' ≤ c ∧ c ≤ 'z' then some (c.toNat - 'a'.toNat + 10)
    else if 'A' ≤ c ∧ c ≤ 'Z' then some (c.toNat - 'A'.toNat + 10)
    else none
  value.filter (· < radix)

/-- Digits read from left to right, on top of a value read before them. -/
def readDigits (radix : Nat) : Nat → List Char → Option Nat
  | n, [] => some n
  | n, c :: r => do readDigits radix (n * radix + (← digit? radix c)) r

/-- A numeral of at least one digit. -/
def readNat (radix : Nat) : List Char → Option Nat
  | [] => none
  | c :: r => readDigits radix 0 (c :: r)

/-- A decimal numeral below a bound, with at most one plus sign in front. -/
def readBelow (bound : Nat) (s : List Char) : Option Nat :=
  let digits := match s with
    | '+' :: r => r
    | _ => s
  (readNat 10 digits).filter (· < bound)

theorem readNat_cons (radix : Nat) (c : Char) (r : List Char) :
    readNat radix (c :: r) = (digit? radix c).bind (readDigits radix · r) := by
  simp [readNat, readDigits, bind]

end AdminPort.Text.Numeral
