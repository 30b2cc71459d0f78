import AdminPort.Text.Numeral
import Mathlib.Data.List.Basic
import Mathlib.Tactic.SplitIfs

/-!
# What numerals denote

A numeral that is written is read back as the number it was written for, in any radix up to
sixteen, and zeros in front of it change nothing. Decimal digits denote the number that they
have in the decimal system, and no other text denotes a number.

Results:
1. `readNat_zeros_toDigits`, `readNat_decimal`: a numeral is read back.
2. `readNat_ten_eq_some_iff`: what decimal digits denote.
3. `readBelow_eq_some_iff`: with a plus sign they denote the same.
-/

namespace AdminPort.Text.Numeral

/-! ## Definitions -/

/-- `Denotes s n`: the text is a decimal numeral of the number.

* `nonempty`, `digits`: it is at least one digit, and nothing else.
* `value`: the digits have this value, zeros in front or not. -/
structure Denotes (s : List Char) (n : Nat) : Prop where
  nonempty : s ≠ []
  digits : ∀ c ∈ s, c.isDigit = true
  value : Nat.ofDigitChars 10 s 0 = n

/-- `Signed s n`: the text is such a numeral, with one plus sign in front or none. -/
def Signed (s : List Char) (n : Nat) : Prop :=
  ∃ sign digits, s = sign ++ digits ∧ (sign = [] ∨ sign = ['+']) ∧ Denotes digits n

/-! ## Reading digits -/

theorem digit?_mono {small large d : Nat} {c : Char} (le : small ≤ large)
    (digit : digit? small c = some d) : digit? large c = some d := by
  obtain ⟨value, less⟩ := Option.filter_eq_some_iff.1 digit
  rw [decide_eq_true_iff] at less
  exact Option.filter_eq_some_iff.2 ⟨value, decide_eq_true (Nat.lt_of_lt_of_le less le)⟩

theorem readDigits_append (radix n : Nat) (a b : List Char) :
    readDigits radix n (a ++ b) = (readDigits radix n a).bind (readDigits radix · b) := by
  induction a generalizing n with
  | nil => rfl
  | cons c a ih =>
    rw [List.cons_append, readDigits, readDigits]
    cases digit? radix c with
    | none => rfl
    | some d => exact ih _

theorem readNat_of_ne_nil {radix : Nat} {s : List Char} (h : s ≠ []) :
    readNat radix s = readDigits radix 0 s := by
  cases s with
  | nil => exact absurd rfl h
  | cons c s => rfl

theorem isSome_digit?_of_readDigits {radix n m : Nat} {s : List Char}
    (h : readDigits radix n s = some m) : ∀ c ∈ s, (digit? radix c).isSome = true := by
  induction s generalizing n with
  | nil => simp
  | cons c s ih =>
    obtain ⟨d, digit, h⟩ := Option.bind_eq_some_iff.1 h
    rw [List.forall_mem_cons]
    exact ⟨Option.isSome_of_eq_some digit, ih h⟩

/-! ## Numerals that are written -/

section

variable {radix : Nat}

theorem digit?_digitChar {d : Nat} (h : d < radix) (small : radix ≤ 16) :
    digit? radix d.digitChar = some d := by
  have table : ∀ radix ≤ 16, ∀ d < radix, digit? radix d.digitChar = some d := by decide
  exact table radix small d h

theorem exists_of_mem_toDigits (large : 1 < radix) {n : Nat} {c : Char}
    (mem : c ∈ Nat.toDigits radix n) : ∃ d < radix, c = d.digitChar := by
  induction n using Nat.strongRecOn with
  | _ n ih =>
    rw [Nat.toDigits_eq_if large] at mem
    split at mem
    · next small => exact ⟨n, small, List.mem_singleton.1 mem⟩
    · next big =>
      rcases List.mem_append.1 mem with front | last
      · exact ih (n / radix) (Nat.div_lt_self (by omega) large) front
      · exact ⟨n % radix, Nat.mod_lt n (by omega), List.mem_singleton.1 last⟩

/-- The numeral of a positive number does not begin with a zero. -/
theorem head?_toDigits (large : 1 < radix) {n : Nat} (positive : 0 < n) :
    (Nat.toDigits radix n).head? ≠ some '0' := by
  induction n using Nat.strongRecOn with
  | _ n ih =>
    rw [Nat.toDigits_eq_if large]
    split
    · simpa [Nat.digitChar_eq_zero] using Nat.pos_iff_ne_zero.1 positive
    · next big =>
      have less : n / radix < n := Nat.div_lt_self positive large
      have whole : 0 < n / radix := Nat.div_pos (by omega) (by omega)
      rw [List.head?_append_of_ne_nil _ Nat.toDigits_ne_nil]
      exact ih (n / radix) less whole

theorem readDigits_toDigits (large : 1 < radix) (small : radix ≤ 16) (n : Nat) :
    readDigits radix 0 (Nat.toDigits radix n) = some n := by
  induction n using Nat.strongRecOn with
  | _ n ih =>
    rw [Nat.toDigits_eq_if large]
    split
    · next single => simp [readDigits, digit?_digitChar single small]
    · next big =>
      have digit : n % radix < radix := Nat.mod_lt n (by omega)
      have less : n / radix < n := Nat.div_lt_self (by omega) large
      rw [readDigits_append, ih (n / radix) less]
      simp [readDigits, digit?_digitChar digit small, Nat.div_add_mod']

theorem readDigits_zeros (positive : 0 < radix) (k : Nat) (s : List Char) :
    readDigits radix 0 (List.replicate k '0' ++ s) = readDigits radix 0 s := by
  have zero : digit? radix '0' = some 0 := by simp [digit?, positive]
  induction k with
  | zero => rfl
  | succ k ih => simpa [List.replicate_succ, readDigits, zero] using ih

theorem readNat_zeros_toDigits (large : 1 < radix) (small : radix ≤ 16) (k n : Nat) :
    readNat radix (List.replicate k '0' ++ Nat.toDigits radix n) = some n := by
  rw [readNat_of_ne_nil (List.append_ne_nil_of_right_ne_nil _ Nat.toDigits_ne_nil),
    readDigits_zeros (by omega), readDigits_toDigits large small]

theorem readNat_toDigits (large : 1 < radix) (small : radix ≤ 16) (n : Nat) :
    readNat radix (Nat.toDigits radix n) = some n :=
  readNat_zeros_toDigits large small 0 n

end

theorem readNat_decimal (n : Nat) : readNat 10 (decimal n).toList = some n := by
  rw [decimal, String.toList_ofList, readNat_toDigits (by decide) (by decide)]

/-! ## Decimal digits -/

theorem digit?_ten_eq_some_iff {c : Char} {d : Nat} :
    digit? 10 c = some d ↔ c.isDigit = true ∧ c.toNat - '0'.toNat = d := by
  have digit : c.isDigit = true ↔ '0' ≤ c ∧ c ≤ '9' := by simp [Char.isDigit, Char.le_def]
  rw [digit, digit?, Option.filter_eq_some_iff, decide_eq_true_iff]
  constructor
  · rintro ⟨value, small⟩
    split_ifs at value with inside
    · exact ⟨inside, Option.some.inj value⟩
    -- a letter counts for ten at least
    · exact absurd small (by rw [← Option.some.inj value]; omega)
    · exact absurd small (by rw [← Option.some.inj value]; omega)
  · rintro ⟨inside, rfl⟩
    have upper : c.toNat ≤ 57 := UInt32.le_iff_toNat_le.1 inside.2
    have small : c.toNat - 48 < 10 := by omega
    exact ⟨if_pos inside, small⟩

theorem readDigits_ten_eq_some_iff {n m : Nat} {s : List Char} :
    readDigits 10 n s = some m ↔
      (∀ c ∈ s, c.isDigit = true) ∧ Nat.ofDigitChars 10 s n = m := by
  induction s generalizing n with
  | nil => simp [readDigits]
  | cons c s ih =>
    rw [readDigits, Option.bind_eq_bind, Option.bind_eq_some_iff, Nat.ofDigitChars_cons,
      List.forall_mem_cons, Nat.mul_comm 10 n]
    simp only [digit?_ten_eq_some_iff, ih]
    constructor
    · rintro ⟨d, ⟨digit, rfl⟩, digits, rfl⟩
      exact ⟨⟨digit, digits⟩, rfl⟩
    · rintro ⟨⟨digit, digits⟩, rfl⟩
      exact ⟨_, ⟨digit, rfl⟩, digits, rfl⟩

theorem readNat_ten_eq_some_iff {n : Nat} {s : List Char} :
    readNat 10 s = some n ↔ Denotes s n := by
  constructor
  · intro read
    have nonempty : s ≠ [] := by
      rintro rfl
      cases read
    rw [readNat_of_ne_nil nonempty, readDigits_ten_eq_some_iff] at read
    exact ⟨nonempty, read.1, read.2⟩
  · rintro ⟨nonempty, digits, value⟩
    rw [readNat_of_ne_nil nonempty, readDigits_ten_eq_some_iff]
    exact ⟨digits, value⟩

theorem denotes_toDigits (n : Nat) : Denotes (Nat.toDigits 10 n) n :=
  readNat_ten_eq_some_iff.1 (readNat_toDigits (by decide) (by decide) n)

theorem readBelow_eq_some_iff {bound n : Nat} {s : List Char} :
    readBelow bound s = some n ↔ Signed s n ∧ n < bound := by
  unfold readBelow
  dsimp only
  rw [Option.filter_eq_some_iff, decide_eq_true_iff]
  refine and_congr_left fun _ => ?_
  constructor
  · intro read
    split at read
    · next digits => exact ⟨['+'], digits, rfl, .inr rfl, readNat_ten_eq_some_iff.1 read⟩
    · exact ⟨[], s, rfl, .inl rfl, readNat_ten_eq_some_iff.1 read⟩
  · rintro ⟨sign, digits, rfl, rfl | rfl, denotes⟩
    · rw [List.nil_append]
      split
      · -- a plus sign is no digit
        cases denotes.digits '+' List.mem_cons_self
      · exact readNat_ten_eq_some_iff.2 denotes
    · exact readNat_ten_eq_some_iff.2 denotes

end AdminPort.Text.Numeral
