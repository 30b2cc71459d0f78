import AdminPort.Proofs.BuildReply
import AdminPort.Proofs.Numerals

/-!
# The time of the build

The setting for the time of the build is a numeral: decimal digits, zeros in front or not,
behind at most one plus sign, with blanks around them. The build has the time that the
numeral denotes if that is below 2^64. A setting of any other form counts as 0, as one that
is missing does. The time is told as it is, in both forms of the build data.

Results:
1. `readBelow_trim_eq_some_iff`: blanks around a numeral make no difference.
2. `Build.showsNumber_placeText`: the line about the place tells the time.
3. `timestamp_told`: the time of a build, and where it is told.
-/

namespace AdminPort

open Text (isBlank trim)
open Text.Numeral (Denotes Signed decimal denotes_toDigits readBelow readBelow_eq_some_iff)

/-! ## Definitions -/

/-- `TellsTime s n`: nothing but a numeral of `n` stands in the text, with or without sign,
between blanks. -/
def TellsTime (s : String) (n : Nat) : Prop :=
  ∃ left numeral right, s.toList = left ++ numeral ++ right ∧ Signed numeral n ∧
    (∀ c ∈ left, isBlank c = true) ∧ ∀ c ∈ right, isBlank c = true

/-- `ShowsNumber s front n`: behind the front the text goes on with digits that denote `n`,
and no digit follows them. -/
def ShowsNumber (s front : String) (n : Nat) : Prop :=
  ∃ digits rest, s.toList = front.toList ++ digits ++ rest ∧ Denotes digits n ∧
    ∀ c, rest.head? = some c → c.isDigit = false

/-! ## Blanks around a numeral -/

theorem not_isBlank_of_signed {s : List Char} {n : Nat} (signed : Signed s n) :
    ∀ c ∈ s, isBlank c = false := by
  obtain ⟨sign, digits, rfl, plus, denotes⟩ := signed
  intro c mem
  rcases List.mem_append.1 mem with mem | mem
  · rcases plus with rfl | rfl
    · cases mem
    · rw [List.mem_singleton.1 mem]
      decide
  · exact Text.isBlank_of_isDigit (denotes.digits c mem)

theorem tellsTime_iff {s : String} {n : Nat} : TellsTime s n ↔ Signed (trim s.toList) n := by
  constructor
  · rintro ⟨left, numeral, right, cut, signed, before, behind⟩
    have free := not_isBlank_of_signed signed
    rwa [cut, Text.trim_append before behind (fun c head => free c (List.mem_of_head? head))
      fun c last => free c (List.mem_of_getLast? last)]
  · intro signed
    obtain ⟨⟨left, right, cut, before, behind⟩, -⟩ := Text.trim_eq_iff.1 (Eq.refl (trim s.toList))
    exact ⟨left, _, right, cut, signed, before, behind⟩

theorem readBelow_trim_eq_some_iff {bound : Nat} {s : String} {n : Nat} :
    readBelow bound (trim s.toList) = some n ↔ TellsTime s n ∧ n < bound := by
  rw [readBelow_eq_some_iff, tellsTime_iff]

/-- The numeral of a number tells it, whatever blanks stand around it. -/
theorem tellsTime_decimal (n : Nat) {left right : String}
    (before : ∀ c ∈ left.toList, isBlank c = true)
    (behind : ∀ c ∈ right.toList, isBlank c = true) :
    TellsTime (left ++ decimal n ++ right) n := by
  refine ⟨left.toList, Nat.toDigits 10 n, right.toList, ?_, ?_, before, behind⟩
  · simp [decimal]
  · exact ⟨[], _, rfl, .inl rfl, denotes_toDigits n⟩

/-! ## The time of a build -/

namespace Build

theorem timestampOfSetting_of_tellsTime {s : String} {n : Nat} (tells : TellsTime s n)
    (small : n < UInt64.size) : (timestampOfSetting (some s)).toNat = n := by
  have read : readBelow UInt64.size (trim s.toList) = some n :=
    readBelow_trim_eq_some_iff.2 ⟨tells, small⟩
  simp only [timestampOfSetting, Option.bind_some, read]
  exact UInt64.toNat_ofNat_of_lt' small

theorem timestampOfSetting_of_not_tellsTime {value : Option String}
    (untold : ∀ s n, value = some s → TellsTime s n → UInt64.size ≤ n) :
    timestampOfSetting value = 0 := by
  unfold timestampOfSetting
  split
  · next n read =>
    obtain ⟨s, rfl, read⟩ := Option.bind_eq_some_iff.1 read
    obtain ⟨tells, small⟩ := readBelow_trim_eq_some_iff.1 read
    exact absurd small (Nat.not_lt.2 (untold s n rfl tells))
  · rfl

theorem showsNumber_placeText (b : Build) :
    ShowsNumber b.placeText "Built on " b.timestamp.toNat := by
  refine ⟨Nat.toDigits 10 b.timestamp.toNat,
    ' ' :: ("by " ++ b.user ++ "@" ++ b.host ++ ":" ++ b.repo).toList, ?_, denotes_toDigits _, ?_⟩
  · unfold placeText
    simp [decimal]
  · rintro _ ⟨rfl⟩
    rfl

end Build

/-- The time of a build is the number that the setting tells, if it is below 2^64, and 0 if
the setting tells no such number or is missing. So the numeral of a time gives back that
time, whatever blanks stand around it. Both forms of the build data tell the time. -/
theorem timestamp_told (setting : String → Option String) :
    let value := setting "TSDADMIN_BUILD_TIMESTAMP"
    let b := Build.ofSettings setting
    (∀ s n, value = some s → TellsTime s n → n < UInt64.size → b.timestamp.toNat = n) ∧
      ((∀ s n, value = some s → TellsTime s n → UInt64.size ≤ n) → b.timestamp = 0) ∧
      (∀ (n : UInt64) (left right : String), (∀ c ∈ left.toList, isBlank c = true) →
        (∀ c ∈ right.toList, isBlank c = true) →
        value = some (left ++ decimal n.toNat ++ right) → b.timestamp = n) ∧
      ShowsNumber b.placeText "Built on " b.timestamp.toNat ∧
      ∃ members, Text.Json.read b.json = some (.object members) ∧
        members.lookup "timestamp" = some (.number b.timestamp.toNat 0) := by
  intro value b
  have time : b.timestamp = Build.timestampOfSetting value := rfl
  refine ⟨?_, ?_, ?_, b.showsNumber_placeText, _, b.read_json, rfl⟩
  · intro s n set tells small
    rw [time, set]
    exact Build.timestampOfSetting_of_tellsTime tells small
  · intro untold
    rw [time]
    exact Build.timestampOfSetting_of_not_tellsTime untold
  · intro n left right before behind set
    have tells := tellsTime_decimal n.toNat before behind
    rw [time, set, ← UInt64.toNat_inj]
    exact Build.timestampOfSetting_of_tellsTime tells n.toNat_lt

/-- Settings in which only the time of the build is given. -/
def exTime (value name : String) : Option String :=
  if name = "TSDADMIN_BUILD_TIMESTAMP" then some value else none

/-- The last time there is, behind a sign, zeros and blanks; the one after it, which is too
late; and a time as it is written. -/
theorem timestamp_told_exTime :
    let last := "\t+0018446744073709551615\u3000"
    let late := "18446744073709551616"
    TellsTime last (UInt64.size - 1) ∧
      (Build.ofSettings (exTime last)).timestamp.toNat = UInt64.size - 1 ∧
      (∀ n, TellsTime late n → UInt64.size ≤ n) ∧ (Build.ofSettings (exTime late)).timestamp = 0 ∧
      (Build.ofSettings (exTime (" " ++ decimal 7 ++ "\n"))).timestamp = 7 := by
  intro last late
  have read : readBelow UInt64.size (trim last.toList) = some (UInt64.size - 1) := by decide +kernel
  have tells : TellsTime last (UInt64.size - 1) := (readBelow_trim_eq_some_iff.1 read).1
  have unread : readBelow UInt64.size (trim late.toList) = none := by decide +kernel
  have beyond (n : Nat) (tells : TellsTime late n) : UInt64.size ≤ n := by
    refine Nat.not_lt.1 fun small => ?_
    rw [readBelow_trim_eq_some_iff.2 ⟨tells, small⟩] at unread
    cases unread
  refine ⟨tells, ?_, beyond, ?_, ?_⟩
  · exact (timestamp_told (exTime last)).1 last _ rfl tells (by decide)
  · refine (timestamp_told (exTime late)).2.1 ?_
    rintro _ n ⟨rfl⟩
    exact beyond n
  · have blank : " ".toList.all isBlank = true ∧ "\n".toList.all isBlank = true := by decide
    exact (timestamp_told (exTime (" " ++ decimal 7 ++ "\n"))).2.2.1 7 " " "\n"
      (List.all_eq_true.1 blank.1) (List.all_eq_true.1 blank.2) rfl

end AdminPort
