import AdminPort.Address.Printer
import AdminPort.Address.Reader
import AdminPort.Proofs.Numerals

/-!
# Addresses that are read back

Every address can be read from its text: the octets, or the groups with the zeros that were
left out, then the scope and the port. So different addresses have different texts, however
many zeros they have and wherever these stand.

Each reader takes from the front of a text what the writer put there, and leaves the rest.
That holds as long as the rest cannot go on with what is read: no digit behind a numeral,
and neither a group nor octets behind a run of groups.

Results:
1. `readNumeral_append`: a numeral of any rule is read.
2. `readGroups_run`: so is a run of groups, if there is room for it.
3. `cut_longestZeroRun`, `le_longestZeroRun`: what is left out are zeros, as many as there
   are in one place, and the first of several such places.
4. `ofString?_text`, `text_inj`: an address is what its text is read as.
-/

namespace AdminPort.Address

open Text.Numeral (digit? decimal hex)

/-! ## Definitions -/

/-- `Ends radix s`: no digit stands at the front of the text. -/
def Ends (radix : Nat) (s : List Char) : Prop :=
  ∀ c, s.head? = some c → digit? radix c = none

/-- `rule.Allows radix n`: the numeral of `n` is of the form that the rule asks for. -/
structure NumeralRule.Allows (rule : NumeralRule) (radix n : Nat) : Prop where
  radix_eq : rule.radix = radix
  radix_bounds : 1 < radix ∧ radix ≤ 16
  form : rule.admits (Nat.toDigits radix n) = true
  bound : n < rule.bound

/-- What stands in front of a group: a colon, unless it is the first of its run. -/
def opening (first : Bool) : List Char :=
  if first then [] else [':']

/-- Groups as a run of them is written. -/
def run : Bool → List UInt16 → List Char
  | _, [] => []
  | first, g :: rest => opening first ++ (Nat.toDigits 16 g.toNat ++ run false rest)

/-- `Halts s`: neither a group nor octets stand at the front of the text, behind a colon
or not. -/
structure Halts (s : List Char) : Prop where
  ends : Ends 16 s
  noDot : s.head? ≠ some '.'
  colon : ∀ rest, s = ':' :: rest → Ends 16 rest

/-! ## Numerals -/

theorem Ends.mono {small large : Nat} {s : List Char} (ends : Ends large s)
    (le : small ≤ large) : Ends small s := by
  intro c head
  rw [Option.eq_none_iff_forall_ne_some]
  intro d digit
  have := Text.Numeral.digit?_mono le digit
  rw [ends c head] at this
  cases this

theorem ends_nil (radix : Nat) : Ends radix [] := by
  simp [Ends]

theorem ends_cons {radix : Nat} {c : Char} (h : digit? radix c = none) (rest : List Char) :
    Ends radix (c :: rest) := by
  rintro _ ⟨rfl⟩
  exact h

theorem takeWhile_append_of_ends {radix : Nat} {digits rest : List Char}
    (all : ∀ c ∈ digits, (digit? radix c).isSome = true) (ends : Ends radix rest) :
    (digits ++ rest).takeWhile (fun c => (digit? radix c).isSome) = digits ∧
      (digits ++ rest).dropWhile (fun c => (digit? radix c).isSome) = rest := by
  rw [List.takeWhile_append_of_pos all, List.dropWhile_append_of_pos all]
  cases rest with
  | nil => simp
  | cons c rest => simp [ends c rfl]

theorem readNumeral_append {rule : NumeralRule} {radix n : Nat} (allows : rule.Allows radix n)
    {rest : List Char} (ends : Ends radix rest) :
    readNumeral rule (Nat.toDigits radix n ++ rest) = some (n, rest) := by
  obtain ⟨rfl, ⟨large, small⟩, form, bound⟩ := allows
  have digits := Text.Numeral.isSome_digit?_of_readDigits
    (Text.Numeral.readDigits_toDigits large small n)
  obtain ⟨taken, dropped⟩ := takeWhile_append_of_ends digits ends
  simp only [readNumeral, taken, dropped, if_pos form, Text.Numeral.readNat_toDigits large small,
    Option.bind_some, if_pos bound]

theorem allows_octet (b : UInt8) : octetRule.Allows 10 b.toNat where
  radix_eq := rfl
  radix_bounds := by decide
  form := by
    have bound : b.toNat < 10 ^ 3 := by have := b.toNat_lt; omega
    have length := (Nat.length_toDigits_le_iff (by decide) (by decide)).2 bound
    rcases Nat.eq_zero_or_pos b.toNat with zero | positive
    · rw [zero]
      decide
    · simp [NumeralRule.admits, octetRule, length, Text.Numeral.head?_toDigits _ positive]
  bound := b.toNat_lt

theorem allows_group (g : UInt16) : groupRule.Allows 16 g.toNat where
  radix_eq := rfl
  radix_bounds := by decide
  form := by
    have bound : g.toNat < 16 ^ 4 := g.toNat_lt
    have length := (Nat.length_toDigits_le_iff (by decide) (by decide)).2 bound
    simp [NumeralRule.admits, groupRule, length]
  bound := g.toNat_lt

theorem allows_port (port : UInt16) : portRule.Allows 10 port.toNat :=
  ⟨rfl, by decide, rfl, port.toNat_lt⟩

theorem allows_scope (scope : UInt32) : scopeRule.Allows 10 scope.toNat :=
  ⟨rfl, by decide, rfl, scope.toNat_lt⟩

/-- A numeral is at least one digit. -/
theorem exists_of_readNumeral {rule : NumeralRule} {n : Nat} {s rest : List Char}
    (h : readNumeral rule s = some (n, rest)) :
    ∃ digits, s = digits ++ rest ∧ digits ≠ [] ∧
      ∀ c ∈ digits, (digit? rule.radix c).isSome = true := by
  unfold readNumeral at h
  dsimp only at h
  split at h
  · obtain ⟨m, value, h⟩ := Option.bind_eq_some_iff.1 h
    split at h
    · cases h
      refine ⟨_, List.takeWhile_append_dropWhile.symm, ?_, ?_⟩
      · intro empty
        rw [empty] at value
        cases value
      · exact List.all_eq_true.1 List.all_takeWhile
    · cases h
  · cases h

theorem readNumeral_of_ends {rule : NumeralRule} {s : List Char} (ends : Ends rule.radix s) :
    readNumeral rule s = none := by
  rw [Option.eq_none_iff_forall_ne_some]
  rintro ⟨n, rest⟩ h
  obtain ⟨digits, rfl, nonempty, all⟩ := exists_of_readNumeral h
  obtain ⟨c, digits, rfl⟩ := List.exists_cons_of_ne_nil nonempty
  have digit := all c List.mem_cons_self
  rw [ends c rfl] at digit
  cases digit

/-! ## Octets -/

theorem readChar_cons (c : Char) (rest : List Char) :
    readChar c (c :: rest) = some ((), rest) := by
  simp [readChar]

theorem readChar_eq_some_iff {c : Char} {s rest : List Char} {u : Unit} :
    readChar c s = some (u, rest) ↔ s = c :: rest := by
  cases s with
  | nil => simp [readChar]
  | cons d s => simp [readChar, eq_comm]

theorem readOctets_text (o : Octets) {rest : List Char} (ends : Ends 10 rest) :
    readOctets (o.text.toList ++ rest) = some (o, rest) := by
  have dot (s : List Char) : Ends 10 ('.' :: s) := ends_cons (by decide) s
  unfold Octets.text
  simp [decimal, readOctets, readNumeral_append (allows_octet _), dot, ends, readChar_cons]

/-- Octets begin with decimal digits and a dot. -/
theorem exists_of_readOctets {s rest : List Char} {o : Octets} (h : readOctets s = some (o, rest)) :
    ∃ digits more, s = digits ++ '.' :: more ∧ digits ≠ [] ∧
      ∀ c ∈ digits, (digit? 10 c).isSome = true := by
  obtain ⟨⟨a, behind⟩, first, h⟩ := Option.bind_eq_some_iff.1 h
  obtain ⟨⟨u, more⟩, dot, -⟩ := Option.bind_eq_some_iff.1 h
  obtain ⟨digits, rfl, nonempty, all⟩ := exists_of_readNumeral first
  rw [readChar_eq_some_iff.1 dot]
  exact ⟨digits, more, rfl, nonempty, all⟩

theorem readOctets_of_ends {s : List Char} (ends : Ends 10 s) : readOctets s = none := by
  have octet : readNumeral octetRule s = none := readNumeral_of_ends ends
  simp [readOctets, octet]

/-- A group is no octets. -/
theorem readOctets_toDigits (n : Nat) {rest : List Char} (ends : Ends 10 rest)
    (dot : rest.head? ≠ some '.') : readOctets (Nat.toDigits 16 n ++ rest) = none := by
  rw [Option.eq_none_iff_forall_ne_some]
  rintro ⟨o, behind⟩ h
  obtain ⟨digits, more, cut, -, all⟩ := exists_of_readOctets h
  have hex : ∀ c ∈ Nat.toDigits 16 n, (digit? 16 c).isSome = true :=
    Text.Numeral.isSome_digit?_of_readDigits
      (Text.Numeral.readDigits_toDigits (by decide) (by decide) n)
  rcases List.append_eq_append_iff.1 cut with ⟨excess, rfl, later⟩ | ⟨excess, same, sooner⟩
  · cases excess with
    | nil => exact dot (by rw [later]; rfl)
    | cons c excess =>
      have digit := all c (by simp)
      rw [ends c (by rw [later]; rfl)] at digit
      cases digit
  · cases excess with
    | nil => exact dot (by rw [← List.nil_append rest, ← sooner]; rfl)
    | cons c excess =>
      -- the dot is no digit of the group
      obtain ⟨rfl, -⟩ := List.cons_eq_cons.1 sooner
      have digit := hex '.' (by simp [same])
      exact absurd digit (by decide)

theorem groupOfOctets_octetsOfGroup (g : UInt16) :
    groupOfOctets (octetsOfGroup g).1 (octetsOfGroup g).2 = g := by
  have bound := g.toNat_lt
  apply UInt16.toNat_inj.1
  simp only [groupOfOctets, octetsOfGroup, UInt16.toNat_add, UInt16.toNat_mul,
    UInt8.toNat_toUInt16, UInt16.toNat_toUInt8, UInt16.toNat_div, UInt16.toNat_ofNat,
    Nat.reducePow, Nat.reduceMod]
  omega

/-! ## Groups -/

theorem readGroups_of_ends {s : List Char} (ends : Ends 16 s) (room : Nat) :
    readGroups true room s = ⟨[], false, s⟩ := by
  cases room with
  | zero => rfl
  | succ room =>
    have noGroup : readNumeral groupRule s = none := readNumeral_of_ends ends
    simp [readGroups, readOctets_of_ends (ends.mono (by decide)), noGroup]

theorem readGroups_of_halts {s : List Char} (halts : Halts s) (first : Bool) (room : Nat) :
    readGroups first room s = ⟨[], false, s⟩ := by
  cases first with
  | true => exact readGroups_of_ends halts.ends room
  | false =>
    cases room with
    | zero => rfl
    | succ room =>
      rw [readGroups]
      cases colon : readChar ':' s with
      | none => rfl
      | some found =>
        have ends := halts.colon found.2 (readChar_eq_some_iff.1 colon)
        have noGroup : readNumeral groupRule found.2 = none := readNumeral_of_ends ends
        simp [readOctets_of_ends (ends.mono (by decide)), noGroup]

section

variable {body rest : List Char} (first : Bool) (room : Nat)

theorem readGroups_of_group {n : Nat} (noOctets : readOctets body = none)
    (group : readNumeral groupRule body = some (n, rest)) :
    readGroups first (room + 1) (opening first ++ body) =
      { readGroups false room rest with
        groups := .ofNat n :: (readGroups false room rest).groups } := by
  cases first <;> simp [readGroups, opening, readChar_cons, noOctets, group]

theorem readGroups_of_octets {o : Octets} (octets : readOctets body = some (o, rest)) :
    readGroups first (room + 2) (opening first ++ body) = ⟨o.asGroups, true, rest⟩ := by
  cases first <;> simp [readGroups, opening, readChar_cons, octets]

end

/-- As many groups are read as were written, if there is room for them. -/
theorem readGroups_run {rest : List Char} (halts : Halts rest) (first : Bool)
    {groups : List UInt16} {room : Nat} (fits : groups.length ≤ room) :
    readGroups first room (run first groups ++ rest) = ⟨groups, false, rest⟩ := by
  induction groups generalizing first room with
  | nil => exact readGroups_of_halts halts first room
  | cons g groups ih =>
    obtain ⟨room, rfl⟩ := Nat.exists_eq_add_of_lt fits
    have behind : Ends 16 (run false groups ++ rest) ∧
        (run false groups ++ rest).head? ≠ some '.' := by
      cases groups with
      | nil => exact ⟨halts.ends, halts.noDot⟩
      | cons next groups => exact ⟨ends_cons (by decide) _, by simp [run, opening]⟩
    have noOctets := readOctets_toDigits g.toNat (behind.1.mono (by decide)) behind.2
    have group := readNumeral_append (allows_group g) behind.1
    rw [run, List.append_assoc, List.append_assoc, readGroups_of_group _ _ noOctets group,
      ih false (Nat.le_add_right _ _)]
    simp

/-! ## Zero groups -/

theorem eq_zeroRun_append (groups : List UInt16) :
    groups = List.replicate (zeroRun groups) 0 ++ groups.drop (zeroRun groups) := by
  induction groups with
  | nil => rfl
  | cons g groups ih =>
    by_cases zero : g = 0
    · subst zero
      have more : zeroRun (0 :: groups) = zeroRun groups + 1 := by simp [zeroRun]
      rw [more, List.replicate_succ, List.drop_succ_cons, List.cons_append, ← ih]
    · simp [zeroRun, zero]

theorem longestZeroRun_le_length (groups : List UInt16) :
    (longestZeroRun groups).1 + (longestZeroRun groups).2 ≤ groups.length := by
  induction groups with
  | nil => exact Nat.le_refl 0
  | cons g groups ih =>
    rw [longestZeroRun]
    dsimp only
    split
    · rw [Nat.zero_add]
      exact zeroRun_le_length _
    · rw [List.length_cons]
      omega

/-- The run that is left out is a run of zeros. -/
theorem cut_longestZeroRun (groups : List UInt16) :
    groups = groups.take (longestZeroRun groups).1 ++
      List.replicate (longestZeroRun groups).2 0 ++
        groups.drop ((longestZeroRun groups).1 + (longestZeroRun groups).2) := by
  induction groups with
  | nil => rfl
  | cons g groups ih =>
    rw [longestZeroRun]
    dsimp only
    split
    · rw [Nat.zero_add]
      exact eq_zeroRun_append _
    · rw [Nat.succ_add, List.drop_succ_cons, List.take_succ_cons, List.cons_append,
        List.cons_append, ← ih]

theorem le_zeroRun {groups back : List UInt16} {n : Nat}
    (cut : groups = List.replicate n 0 ++ back) : n ≤ zeroRun groups := by
  subst cut
  rw [zeroRun, List.takeWhile_append_of_pos (by simp), List.length_append, List.length_replicate]
  exact Nat.le_add_right n _

/-- No run of zeros is longer than the one that is left out, and none as long comes before it. -/
theorem le_longestZeroRun {groups front back : List UInt16} {n : Nat}
    (cut : groups = front ++ List.replicate n 0 ++ back) :
    n ≤ (longestZeroRun groups).2 ∧
      (0 < n → n = (longestZeroRun groups).2 → (longestZeroRun groups).1 ≤ front.length) := by
  induction groups generalizing front with
  | nil =>
    have empty : n = 0 := by
      have := congrArg List.length cut
      simp at this
      omega
    simp [empty]
  | cons g groups ih =>
    rw [longestZeroRun]
    dsimp only
    cases front with
    | nil =>
      have here : n ≤ zeroRun (g :: groups) := le_zeroRun cut
      split
      · exact ⟨here, fun _ _ => Nat.zero_le _⟩
      · next less => exact ⟨by omega, fun _ same => by omega⟩
    | cons f front =>
      obtain ⟨le, first⟩ := ih (List.cons_eq_cons.1 cut).2
      split
      · next less => exact ⟨by omega, fun _ _ => Nat.zero_le _⟩
      · exact ⟨le, fun positive same => Nat.succ_le_succ (first positive same)⟩

/-! ## Groups as a whole -/

theorem toList_joinGroups (groups : List UInt16) :
    (joinGroups groups).toList = run true groups := by
  have behind (text : String) (groups : List UInt16) :
      (String.intercalate ":" (text :: groups.map fun g => hex g.toNat)).toList =
        text.toList ++ run false groups := by
    induction groups generalizing text with
    | nil => simp [run]
    | cons g groups ih =>
      rw [List.map_cons, String.intercalate_cons_cons, String.toList_append, ih]
      simp [run, opening, hex]
  cases groups with
  | nil => rfl
  | cons g groups => simpa [joinGroups, run, opening, hex] using behind (hex g.toNat) groups

theorem eq_of_mappedOctets? {groups : List UInt16} {o : Octets}
    (h : mappedOctets? groups = some o) : groups = [0, 0, 0, 0, 0, 0xffff] ++ o.asGroups := by
  unfold mappedOctets? at h
  split at h
  · cases h
    simp [Octets.asGroups, groupOfOctets_octetsOfGroup]
  · cases h

theorem fillGroups_eq {g : Groups} {front back : List UInt16} {n : Nat}
    (cut : g.list = front ++ List.replicate n 0 ++ back) :
    fillGroups front back = some g := by
  have length : front.length + n + back.length = 8 := by
    rw [← g.length_eq, cut]
    simp [Nat.add_assoc]
  have room : 8 - front.length - back.length = n := by omega
  simp [fillGroups, room, ← cut, g.length_eq]

theorem halts_colons (s : List Char) : Halts (':' :: ':' :: s) where
  ends := ends_cons (by decide) _
  noDot := by simp
  colon := by
    rintro _ ⟨rfl⟩
    exact ends_cons (by decide) s

theorem readAllGroups_run (g : Groups) {rest : List Char} (halts : Halts rest) :
    readAllGroups (run true g.list ++ rest) = some (g, rest) := by
  have front := readGroups_run halts true (Nat.le_of_eq g.length_eq)
  have filled : fillGroups g.list [] = some g := fillGroups_eq (n := 0) (by simp)
  simp [readAllGroups, front, g.length_eq, filled]

/-- Two colons stand for the zeros between the groups in front and at the end. -/
theorem readAllGroups_gap {g : Groups} {front : List UInt16} {s : List Char} {back : GroupRun}
    (few : front.length < 8) (read : readGroups true (7 - front.length) s = back) {n : Nat}
    (cut : g.list = front ++ List.replicate n 0 ++ back.groups) :
    readAllGroups (run true front ++ ':' :: ':' :: s) = some (g, back.rest) := by
  have before := readGroups_run (halts_colons s) true (Nat.le_of_lt few)
  have ne : front.length ≠ 8 := Nat.ne_of_lt few
  simp [readAllGroups, before, ne, readChar_cons, read, fillGroups_eq cut]

theorem readAllGroups_mapped {g : Groups} {o : Octets} (mapped : mappedOctets? g.list = some o)
    {rest : List Char} (ends : Ends 10 rest) :
    readAllGroups (("::ffff:" ++ o.text).toList ++ rest) = some (g, rest) := by
  have start (s : List Char) : Nat.toDigits 16 0xffff ++ s = 'f' :: 'f' :: 'f' :: 'f' :: s := rfl
  -- the group in front of the octets is no part of them
  have noOctets : readOctets (Nat.toDigits 16 (0xffff : UInt16).toNat ++ ':' ::
      (o.text.toList ++ rest)) = none := readOctets_of_ends (ends_cons (by decide) _)
  have back := readGroups_of_group true 6 noOctets
    (readNumeral_append (allows_group 0xffff) (ends_cons (by decide) _))
  have octets := readGroups_of_octets false 4 (readOctets_text o ends)
  rw [opening, if_neg (by decide), List.singleton_append] at octets
  rw [octets] at back
  have cut : g.list = [] ++ List.replicate 5 0 ++ 0xffff :: o.asGroups :=
    eq_of_mappedOctets? mapped
  have few : ([] : List UInt16).length < 8 := by decide
  have gap := readAllGroups_gap few back cut
  simpa [run, opening, start] using gap

theorem readAllGroups_text (g : Groups) {rest : List Char} (halts : Halts rest) :
    readAllGroups (g.text.toList ++ rest) = some (g, rest) := by
  unfold Groups.text
  cases mapped : mappedOctets? g.list with
  | some o => exact readAllGroups_mapped mapped (halts.ends.mono (by decide))
  | none =>
    dsimp only
    split
    · next long =>
      have cut := cut_longestZeroRun g.list
      have inside := longestZeroRun_le_length g.list
      generalize longestZeroRun g.list = place at long cut inside ⊢
      rw [g.length_eq] at inside
      have front : (g.list.take place.1).length = place.1 :=
        List.length_take_of_le (by rw [g.length_eq]; omega)
      have back : (g.list.drop (place.1 + place.2)).length ≤ 7 - place.1 := by
        rw [List.length_drop, g.length_eq]
        omega
      have gap := readAllGroups_gap (by omega) (readGroups_run halts true (by rwa [front])) cut
      simpa [toList_joinGroups] using gap
    · rw [toList_joinGroups]
      exact readAllGroups_run g halts

/-! ## Whole addresses -/

theorem readPort_text (port : UInt16) :
    readPort (':' :: (decimal port.toNat).toList) = some (port, []) := by
  have numeral := readNumeral_append (allows_port port) (ends_nil 10)
  rw [List.append_nil] at numeral
  simp [readPort, readChar_cons, decimal, numeral]

theorem halts_of_mark {c : Char} (mark : c = '%' ∨ c = ']') (s : List Char) : Halts (c :: s) := by
  rcases mark with rfl | rfl
  · exact ⟨ends_cons (by decide) s, by simp, by simp⟩
  · exact ⟨ends_cons (by decide) s, by simp, by simp⟩

theorem halts_scopeText (scope : UInt32) (s : List Char) :
    Halts ((scopeText scope).toList ++ ']' :: s) := by
  unfold scopeText
  split
  · exact halts_of_mark (.inr rfl) s
  · simpa using halts_of_mark (.inl rfl) _

theorem readScope_text (scope : UInt32) (s : List Char) :
    readScope ((scopeText scope).toList ++ ']' :: s) = (scope.toNat, ']' :: s) := by
  have ends : Ends 10 (']' :: s) := ends_cons (by decide) s
  unfold scopeText
  split
  · next zero => simp [readScope, readChar, zero]
  · simp [readScope, readChar_cons, decimal, readNumeral_append (allows_scope scope) ends]

theorem readV4_text (o : Octets) (port : UInt16) :
    readV4 (v4 o port).text.toList = some (v4 o port, []) := by
  have colon : Ends 10 (':' :: (decimal port.toNat).toList) := ends_cons (by decide) _
  simp [readV4, text, readOctets_text o colon, readPort_text]

theorem toList_text_v6 (g : Groups) (scope : UInt32) (port : UInt16) :
    (v6 g scope port).text.toList = '[' :: (g.text.toList ++ ((scopeText scope).toList ++
      ']' :: ':' :: (decimal port.toNat).toList)) := by
  simp [text]

theorem readV6_text (g : Groups) (scope : UInt32) (port : UInt16) :
    readV6 (v6 g scope port).text.toList = some (v6 g scope port, []) := by
  have halts := halts_scopeText scope (':' :: (decimal port.toNat).toList)
  rw [toList_text_v6]
  simp only [readV6, readChar_cons, Option.bind_eq_bind, Option.bind_some,
    readAllGroups_text g halts, readScope_text, readPort_text]
  simp

/-- Every address is what its text is read as. -/
theorem ofString?_text (a : Address) : ofString? a.text = some a := by
  cases a with
  | v4 o port => simp [ofString?, readV4_text]
  | v6 g scope port =>
    have noOctets : readV4 (v6 g scope port).text.toList = none := by
      rw [toList_text_v6]
      simp [readV4, readOctets_of_ends (ends_cons (show digit? 10 '[' = none by decide) _)]
    simp [ofString?, noOctets, readV6_text]

theorem text_inj {a b : Address} : a.text = b.text ↔ a = b := by
  refine ⟨fun same => ?_, congrArg text⟩
  have read := congrArg ofString? same
  rw [ofString?_text, ofString?_text] at read
  exact Option.some.inj read

end AdminPort.Address
