import AdminPort.Proofs.Numerals
import AdminPort.Yaml.Number
import Mathlib.Tactic.ByContra
import Mathlib.Tactic.SplitIfs

/-!
# How integers are spelled in documents

A plain scalar is an integer by its spelling alone: digits without a zero in front, or
digits of another radix behind the two characters that name it, and in front of either
at most one plus sign. There is no bound to it but that of the reader.

Results:
1. `readSize_eq_some_iff`: the digits of an integer, without its sign.
2. `unsigned?_eq_some_iff`: an integer is read exactly if it is spelled and below the bound.
-/

namespace AdminPort.Yaml

open Text.Numeral (readNat digit?)

/-! ## Definitions -/

/-- `Spells digits n`: digits without a sign are an integer.

* `decimal`: a zero stands alone or not in front.
* `hex`, `octal`, `binary`: two characters name the radix, and zeros may follow. -/
inductive Spells : List Char → Nat → Prop
  | decimal {digits : List Char} {n : Nat} : readNat 10 digits = some n →
      (digits.head? = some '0' → digits = ['0']) → Spells digits n
  | hex {digits : List Char} {n : Nat} : readNat 16 digits = some n →
      Spells ('0' :: 'x' :: digits) n
  | octal {digits : List Char} {n : Nat} : readNat 8 digits = some n →
      Spells ('0' :: 'o' :: digits) n
  | binary {digits : List Char} {n : Nat} : readNat 2 digits = some n →
      Spells ('0' :: 'b' :: digits) n

/-- `SpellsInteger s n`: a text is an integer, with or without a plus sign. -/
def SpellsInteger (s : List Char) (n : Nat) : Prop :=
  Spells s n ∨ ∃ digits, s = '+' :: digits ∧ Spells digits n

/-! ## Digits -/

namespace SpellingLemmas

theorem isDigit_of_readNat {n : Nat} {s : List Char} (h : readNat 10 s = some n) :
    ∀ c ∈ s, c.isDigit = true :=
  (Text.Numeral.readNat_ten_eq_some_iff.1 h).digits

/-- The characters that name a radix are no digits. -/
theorem readRadix_of_readNat {n : Nat} {s : List Char} (h : readNat 10 s = some n) :
    readRadix s = none := by
  have digits := isDigit_of_readNat h
  unfold readRadix
  split
  · exact absurd (digits 'x' (by simp)) (by decide)
  · exact absurd (digits 'o' (by simp)) (by decide)
  · exact absurd (digits 'b' (by simp)) (by decide)
  · rfl

/-- The digits of a text that may have a sign in front. -/
theorem hasLeadingZeros_iff {s digits : List Char}
    (behind : s = '+' :: digits ∨ s = digits ∧ s.head? ≠ some '+' ∧ s.head? ≠ some '-') :
    hasLeadingZeros s = true ↔
      digits.head? = some '0' ∧ digits ≠ ['0'] ∧ ∀ c ∈ digits, c.isDigit = true := by
  have same : hasLeadingZeros s =
      (2 ≤ digits.length && digits.head? == some '0' && digits.all Char.isDigit) := by
    rcases behind with rfl | ⟨rfl, noPlus, noMinus⟩
    · rfl
    · unfold hasLeadingZeros
      split
      · next h => simp at noMinus
      · next h => simp at noPlus
      · rfl
  rw [same]
  cases digits with
  | nil => simp
  | cons c rest =>
    cases rest with
    | nil => grind
    | cons d rest => simp

end SpellingLemmas

open SpellingLemmas

section

variable {s digits : List Char} {n : Nat}

theorem readSize_eq_some_iff
    (behind : s = '+' :: digits ∨ s = digits ∧ s.head? ≠ some '+' ∧ s.head? ≠ some '-') :
    readSize s digits = some n ↔ Spells digits n := by
  rw [readSize, Option.orElse_eq_or, Option.or_eq_some_iff]
  constructor
  · rintro (radix | ⟨-, decimal⟩)
    · unfold readRadix at radix
      split at radix
      · exact .hex radix
      · exact .octal radix
      · exact .binary radix
      · cases radix
    · split_ifs at decimal with zeros
      refine .decimal decimal fun zero => ?_
      by_contra more
      exact zeros ((hasLeadingZeros_iff behind).2 ⟨zero, more, isDigit_of_readNat decimal⟩)
  · rintro (⟨decimal, zero⟩ | hex | octal | binary)
    · refine .inr ⟨readRadix_of_readNat decimal, ?_⟩
      rw [if_neg, decimal]
      rw [hasLeadingZeros_iff behind]
      exact fun ⟨isZero, more, _⟩ => more (zero isZero)
    · exact .inl hex
    · exact .inl octal
    · exact .inl binary

/-- Neither sign spells anything by itself. -/
theorem Spells.head?_ne (h : Spells digits n) :
    digits.head? ≠ some '+' ∧ digits.head? ≠ some '-' := by
  cases h with
  | decimal decimal =>
    have allDigits := isDigit_of_readNat decimal
    cases digits with
    | nil => simp
    | cons c rest =>
      have digit := allDigits c List.mem_cons_self
      constructor
      · rintro ⟨⟩
        cases digit
      · rintro ⟨⟩
        cases digit
  | hex | octal | binary => simp

theorem unsigned?_eq_some_iff {bound : Nat} :
    unsigned? bound s = some n ↔ SpellsInteger s n ∧ n < bound := by
  unfold unsigned?
  rw [Option.filter_eq_some_iff, decide_eq_true_iff, SpellsInteger]
  refine and_congr_left fun _ => ?_
  split
  · next rest =>
    rw [readSize_eq_some_iff (.inl rfl)]
    constructor
    · exact fun spelled => .inr ⟨rest, rfl, spelled⟩
    · rintro (spelled | ⟨_, ⟨⟩, spelled⟩)
      · exact absurd rfl spelled.head?_ne.1
      · exact spelled
  · next noPlus =>
    have only : (∃ digits, s = '+' :: digits ∧ Spells digits n) ↔ False :=
      iff_false_intro fun ⟨digits, same, _⟩ => noPlus digits same
    rw [only, or_false]
    by_cases minus : s.head? = some '-'
    · -- a minus sign is no digit, and no zero behind it makes a difference
      obtain ⟨rest, rfl⟩ := List.head?_eq_some_iff.1 minus
      refine iff_of_false ?_ fun spelled => spelled.head?_ne.2 rfl
      simp [readSize, readRadix, Text.Numeral.readNat_cons, show digit? 10 '-' = none from rfl]
    · refine readSize_eq_some_iff (.inr ⟨rfl, fun plus => ?_, minus⟩)
      obtain ⟨rest, same⟩ := List.head?_eq_some_iff.1 plus
      exact noPlus rest same

end

end AdminPort.Yaml
