import AdminPort.Decimal.Double

/-!
# The shortest decimal form

The decimal form of a double with the fewest digits among those that are nearer
to it than to any other double; of several with that many digits, the nearest to
it. It is written in positional notation, whatever its size, and always has a
digit on both sides of the point.
-/

namespace AdminPort.Decimal

/-- A decimal form: n · 10^e. -/
structure Form where
  digits : Nat
  exponent : Int
deriving DecidableEq, Repr

namespace Double

/-- The numbers that are nearer to a double than to any other, in quarters of its
last place: from the lower to the upper end. -/
def quarters (d : Double) : Nat × Nat :=
  let low := if d.mantissa = mantissaBound / 2 && leastExponent < d.exponent then 1 else 2
  (4 * d.mantissa - low, 4 * d.mantissa + 2)

/-- Whether a decimal form is nearer to a double than to any other. The ends are
in reach of the even neighbour. -/
def admits (d : Double) (f : Form) : Bool :=
  let (low, high) := d.quarters
  let form := Fraction.scaled f.digits 10 f.exponent
  let unit := Fraction.scaled 1 2 (d.exponent - 2)
  let left := form.num * unit.den
  let right := unit.num * form.den
  if d.mantissa % 2 = 0 then low * right ≤ left && left ≤ high * right
  else low * right < left && left < high * right

/-- The double as a fraction. -/
def fraction (d : Double) : Fraction := .scaled d.mantissa 2 d.exponent

/-- The exponent of the greatest power of ten that is not above a double. -/
def log10 (d : Double) : Int :=
  let f := d.fraction
  let guess : Int := (digitCount f.num : Int) - digitCount f.den
  if f.reaches 10 guess then guess else guess - 1

/-- The forms next to a double with a given number of digits, the nearer one first. -/
def neighbours (d : Double) (count : Nat) : List Form :=
  let exponent := d.log10 - count + 1
  let f := d.fraction
  let power := Fraction.scaled 1 10 exponent
  let num := f.num * power.den
  let den := f.den * power.num
  let below : Form := ⟨num / den, exponent⟩
  let above : Form := ⟨num / den + 1, exponent⟩
  if 2 * (num % den) ≤ den then [below, above] else [above, below]

/-- The most digits that a shortest form can have. -/
def maxDigits : Nat := 17

/-- The shortest form of a double that is not zero. -/
def shortest (d : Double) : Form :=
  let forms := (List.range maxDigits).flatMap fun n => d.neighbours (n + 1)
  (forms.find? d.admits).getD ⟨0, 0⟩

end Double

/-- Digits with a point in front of the last so many of them, and a zero in front
of the point if nothing else is there. -/
def withPoint (digits : List Char) (places : Nat) : List Char :=
  let padded := List.replicate (places + 1 - digits.length) '0' ++ digits
  let whole := padded.length - places
  padded.take whole ++ '.' :: padded.drop whole

/-- A decimal form in positional notation, without zeros at its end but for the
one behind the point. -/
def Form.positional (f : Form) : List Char :=
  let digits := ((Nat.toDigits 10 f.digits).reverse.dropWhile (· == '0')).reverse
  let dropped := digitCount f.digits - digits.length
  let exponent := f.exponent + dropped
  if 0 ≤ exponent then digits ++ List.replicate exponent.toNat '0' ++ ['.', '0']
  else withPoint digits (-exponent).toNat

/-- The shortest decimal text of a double. -/
def Double.text (d : Double) : String :=
  if d.mantissa = 0 then "0.0" else String.ofList d.shortest.positional

end AdminPort.Decimal
