/-!
# Binary numbers of double precision

The finite numbers m · 2^q with m below 2^53 and q from -1074 to 971, and the
nearest one to a decimal number; of two that are equally near, the one with the
even m. All of it is exact arithmetic on natural numbers.
-/

namespace AdminPort.Decimal

/-- The number of values of m. -/
def mantissaBound : Nat := Nat.pow 2 53

/-- The least exponent. -/
def leastExponent : Int := -1074

/-- The greatest exponent. -/
def greatestExponent : Int := 971

/-- A number of double precision that is not negative: m · 2^q. -/
structure Double where
  mantissa : Nat
  exponent : Int
deriving DecidableEq, Repr

/-- A quotient, rounded to the nearest whole number, from the middle to the even one. -/
def roundEven (num den : Nat) : Nat :=
  let quotient := num / den
  let twice := 2 * (num % den)
  if den < twice || (den == twice && quotient % 2 == 1) then quotient + 1 else quotient

/-- A fraction: numerator and denominator. -/
structure Fraction where
  num : Nat
  den : Nat
deriving DecidableEq, Repr

namespace Fraction

/-- A whole number times a power of a base. -/
def scaled (n base : Nat) (exponent : Int) : Fraction :=
  if 0 ≤ exponent then ⟨n * Nat.pow base exponent.toNat, 1⟩ else ⟨n, Nat.pow base (-exponent).toNat⟩

/-- Whether a fraction is at least a power of a base. -/
def reaches (f : Fraction) (base : Nat) (exponent : Int) : Bool :=
  let power := scaled 1 base exponent
  f.den * power.num ≤ f.num * power.den

/-- The exponent of the greatest power of two that is not above a fraction. -/
def log2 (f : Fraction) : Int :=
  let guess : Int := (Nat.log2 f.num : Int) - Nat.log2 f.den
  if f.reaches 2 guess then guess else guess - 1

/-- A fraction divided by a power of two, rounded to the nearest whole number. -/
def roundAt (f : Fraction) (exponent : Int) : Nat :=
  let power := scaled 1 2 exponent
  roundEven (f.num * power.den) (f.den * power.num)

end Fraction

/-- The number of decimal digits of a natural number. -/
def digitCount (n : Nat) : Nat := (Nat.toDigits 10 n).length

/-- Decimal numbers at or above this power of ten are beyond every double. -/
def beyondGreatest : Int := 310

/-- Decimal numbers below this power of ten are nearer to zero than to any double. -/
def beyondLeast : Int := -330

namespace Double

/-- The nearest number to a fraction that is not zero; none if it is too great. -/
def ofFraction (f : Fraction) : Option Double :=
  let exponent := max (f.log2 - 52) leastExponent
  let mantissa := f.roundAt exponent
  let rounded : Double :=
    if mantissa = mantissaBound then ⟨mantissaBound / 2, exponent + 1⟩ else ⟨mantissa, exponent⟩
  if greatestExponent < rounded.exponent then none else some rounded

/-- The nearest number to n · 10^e; none if that is too great. -/
def ofDecimal (n : Nat) (e : Int) : Option Double :=
  let size := (digitCount n : Int) + e
  if n = 0 || size < beyondLeast then some ⟨0, leastExponent⟩
  else if beyondGreatest < size then none
  else ofFraction (.scaled n 10 e)

end Double

end AdminPort.Decimal
