import AdminPort.Proofs.Readback
import AdminPort.Text.Json
import Mathlib.Data.List.TakeWhile

/-!
# Reading JSON text

What a JSON text says, for any text and whoever wrote it. A text is read character by
character. Characters make up tokens: the marks, the words and numbers, and the string
literals with their escapes. Tokens make up values, with the lists and objects that are
still open kept around the place that is read. So reading is one walk over the text, and
what a piece of it does can be told for itself.

The writer is used on flat objects only. Their texts are read back to the very members
that were written, and hold no control characters.

Results:
1. `Reader.run_append`: a text is read piece by piece.
2. `Reader.run_literal`, `Reader.run_toDigits`: a literal and a numeral are one token each.
3. `read_object`: a flat object is read back, its members in order.
4. `le_of_mem_object`: its text is one line.
-/

namespace AdminPort.Text.Json

/-! ## Values -/

/-- A JSON value. A number is its digits without the point and a power of ten; an object
has its members as they come, in order. -/
inductive Tree where
  | null
  | truth (b : Bool)
  | number (coefficient exponent : Int)
  | text (s : String)
  | list (items : List Tree)
  | object (members : List (String × Tree))
deriving Repr

/-! ## Tokens -/

/-- What stands between the blanks of a text. -/
inductive Token where
  | openList
  | closeList
  | openObject
  | closeObject
  | comma
  | colon
  | text (s : String)
  | value (t : Tree)
deriving Repr

/-- The token of a mark. -/
def mark? (c : Char) : Option Token :=
  match c with
  | '[' => some .openList
  | ']' => some .closeList
  | '\x7b' => some .openObject
  | '\x7d' => some .closeObject
  | ',' => some .comma
  | ':' => some .colon
  | _ => none

/-- The digits of the whole part of a number, and what follows them. No zero leads. -/
def whole? (s : List Char) : Option (List Char × List Char) :=
  let digits := s.takeWhile Char.isDigit
  if digits = ['0'] ∨ digits ≠ [] ∧ digits.head? ≠ some '0' then
    some (digits, s.dropWhile Char.isDigit)
  else none

/-- The digits behind the point of a number, and what follows them. -/
def fraction? : List Char → Option (List Char × List Char)
  | '.' :: r =>
    if r.takeWhile Char.isDigit = [] then none
    else some (r.takeWhile Char.isDigit, r.dropWhile Char.isDigit)
  | s => some ([], s)

/-- The power of ten at the end of a number. -/
def exponent? : List Char → Option Int
  | [] => some 0
  | e :: r =>
    if e = 'e' ∨ e = 'E' then
      match r with
      | '-' :: r => (Numeral.readNat 10 r).map fun n => -n
      | '+' :: r => (Numeral.readNat 10 r).map fun n => n
      | r => (Numeral.readNat 10 r).map fun n => n
    else none

/-- A number without its sign. -/
def unsigned? (s : List Char) : Option (Nat × Int) := do
  let (whole, s) ← whole? s
  let (fraction, s) ← fraction? s
  let exponent ← exponent? s
  some (← Numeral.readNat 10 (whole ++ fraction), exponent - fraction.length)

/-- A number. -/
def number? : List Char → Option Tree
  | '-' :: r => (unsigned? r).map fun (n, e) => .number (-n) e
  | s => (unsigned? s).map fun (n, e) => .number n e

/-- A word that is a value. -/
def word? (s : List Char) : Option Tree :=
  if s = "null".toList then some .null
  else if s = "true".toList then some (.truth true)
  else if s = "false".toList then some (.truth false)
  else number? s

/-- The text of the code units of a literal, in which a character beyond the first 2^16
may be a pair of surrogates. -/
def ofUnits : List Nat → Option (List Char)
  | [] => some []
  | [u] => if u.isValidChar then some [Char.ofNat u] else none
  | u :: v :: rest =>
    if u.isValidChar then (ofUnits (v :: rest)).map (Char.ofNat u :: ·)
    else if 0xd800 ≤ u ∧ u < 0xdc00 ∧ 0xdc00 ≤ v ∧ v < 0xe000 then
      (ofUnits rest).map (Char.ofNat (0x10000 + (u - 0xd800) * 0x400 + (v - 0xdc00)) :: ·)
    else none

/-! ## Nesting -/

/-- What is open around a value: a list or an object, with what it holds so far, the last
first, and for an object the key of the value. -/
inductive Frame where
  | list (before : List Tree)
  | object (before : List (String × Tree)) (key : String)
deriving Repr

/-- What may come next. -/
inductive Place where
  /-- A value. -/
  | value
  /-- A value, or the end of the list that has just begun. -/
  | item
  /-- A key, or the end of the object if it has just begun. -/
  | key (before : List (String × Tree)) (begun : Bool)
  /-- The colon behind a key. -/
  | colon (before : List (String × Tree)) (key : String)
  /-- What follows a value. -/
  | behind (t : Tree)
deriving Repr

/-- A place and what is open around it, from the inside out. -/
structure Nesting where
  place : Place
  around : List Frame
deriving Repr

/-- The first token of a value. -/
def Nesting.begin (around : List Frame) : Token → Option Nesting
  | .openList => some ⟨.item, .list [] :: around⟩
  | .openObject => some ⟨.key [] true, around⟩
  | .text s => some ⟨.behind (.text s), around⟩
  | .value t => some ⟨.behind t, around⟩
  | _ => none

/-- One token more. -/
def Nesting.step (n : Nesting) (token : Token) : Option Nesting :=
  match n.place, token, n.around with
  | .item, .closeList, .list before :: around => some ⟨.behind (.list before.reverse), around⟩
  | .item, token, around => begin around token
  | .value, token, around => begin around token
  | .key before true, .closeObject, around => some ⟨.behind (.object before.reverse), around⟩
  | .key before _, .text key, around => some ⟨.colon before key, around⟩
  | .colon before key, .colon, around => some ⟨.value, .object before key :: around⟩
  | .behind t, .comma, .list before :: around => some ⟨.value, .list (t :: before) :: around⟩
  | .behind t, .comma, .object before key :: around =>
    some ⟨.key ((key, t) :: before) false, around⟩
  | .behind t, .closeList, .list before :: around =>
    some ⟨.behind (.list (t :: before).reverse), around⟩
  | .behind t, .closeObject, .object before key :: around =>
    some ⟨.behind (.object ((key, t) :: before).reverse), around⟩
  | _, _, _ => none

/-! ## Characters -/

/-- What the characters before belong to. -/
inductive Scan where
  | between
  | word (read : List Char)
  /-- The code units of a literal so far, the last first. -/
  | quoted (units : List Nat)
  | escaped (units : List Nat)
  /-- A code unit in hexadecimal digits, of which some are still to come. -/
  | unit (units : List Nat) (missing value : Nat)
deriving Repr

/-- A text that is being read. -/
structure Reader where
  scan : Scan
  nesting : Nesting
deriving Repr

/-- The blanks of JSON. -/
def isSpace (c : Char) : Bool :=
  c == ' ' || c == '\t' || c == '\n' || c == '\r'

/-- The characters of words and numbers. -/
def isWordChar (c : Char) : Bool :=
  c.isAlphanum || c == '-' || c == '+' || c == '.'

/-- The code unit of an escape with a letter. -/
def short? (c : Char) : Option Nat :=
  match c with
  | '"' => some 0x22
  | '\\' => some 0x5c
  | '/' => some 0x2f
  | 'b' => some 0x08
  | 'f' => some 0x0c
  | 'n' => some 0x0a
  | 'r' => some 0x0d
  | 't' => some 0x09
  | _ => none

/-- A character that does not belong to what came before it. -/
def Nesting.start (n : Nesting) (c : Char) : Option Reader :=
  if isSpace c then some ⟨.between, n⟩
  else if c = '"' then some ⟨.quoted [], n⟩
  else if isWordChar c then some ⟨.word [c], n⟩
  else (mark? c).bind fun token => (n.step token).map (⟨.between, ·⟩)

/-- One character more. -/
def Reader.step (r : Reader) (c : Char) : Option Reader :=
  match r.scan with
  | .between => r.nesting.start c
  | .word read =>
    if isWordChar c then some { r with scan := .word (read ++ [c]) }
    else (word? read).bind fun t => (r.nesting.step (.value t)).bind (·.start c)
  | .quoted units =>
    if c = '"' then
      (ofUnits units.reverse).bind fun s =>
        (r.nesting.step (.text (String.ofList s))).map (⟨.between, ·⟩)
    else if c = '\\' then some { r with scan := .escaped units }
    else if c.toNat < 0x20 then none
    else some { r with scan := .quoted (c.toNat :: units) }
  | .escaped units =>
    if c = 'u' then some { r with scan := .unit units 4 0 }
    else (short? c).map fun u => { r with scan := .quoted (u :: units) }
  | .unit units missing value =>
    (Numeral.digit? 16 c).map fun d =>
      if missing = 1 then { r with scan := .quoted ((value * 16 + d) :: units) }
      else { r with scan := .unit units (missing - 1) (value * 16 + d) }

/-- Characters in order. -/
def Reader.run (r : Reader) (s : List Char) : Option Reader := s.foldlM step r

/-- The value of a JSON text. -/
def read (s : String) : Option Tree :=
  match Reader.run ⟨.between, ⟨.value, []⟩⟩ (s.toList ++ [' ']) with
  | some ⟨.between, ⟨.behind t, []⟩⟩ => some t
  | _ => none

example : read "[-1.50e3, \"\\ud83d\\ude00\"]" =
    some (.list [.number (-150) 1, .text "😀"]) := by rfl

/-- The value that is written. -/
def Value.tree : Value → Tree
  | .text s => .text s
  | .number n => .number n 0

/-! ## Strings -/

@[simp]
theorem Reader.run_nil (r : Reader) : r.run [] = some r := rfl

@[simp]
theorem Reader.run_cons (r : Reader) (c : Char) (s : List Char) :
    r.run (c :: s) = (r.step c).bind (·.run s) := rfl

theorem Reader.run_append (r : Reader) (s t : List Char) :
    r.run (s ++ t) = (r.run s).bind (·.run t) :=
  List.foldlM_append

theorem ofUnits_map_toNat (s : List Char) : ofUnits (s.map Char.toNat) = some s := by
  induction s with
  | nil => rfl
  | cons c s ih =>
    have valid : c.toNat.isValidChar := c.valid
    cases s with
    | nil => simp [ofUnits, valid]
    | cons d s =>
      rw [List.map_cons, List.map_cons, ofUnits, if_pos valid, ← List.map_cons, ih]
      simp

theorem digit?_hexDigit (n : Nat) : Numeral.digit? 16 (hexDigit n) = some (n % 16) := by
  rw [hexDigit, Numeral.digit?_digitChar (Nat.mod_lt n (by decide)) (by decide)]

section

variable (units : List Nat) (n : Nesting)

/-- An escape of four digits. -/
theorem Reader.run_escape {c : Char} (control : c.toNat < 0x20) :
    Reader.run ⟨.quoted units, n⟩
        ['\\', 'u', '0', '0', hexDigit (c.toNat / 16), hexDigit c.toNat] =
      some ⟨.quoted (c.toNat :: units), n⟩ := by
  have zero : Numeral.digit? 16 '0' = some 0 := by decide
  have value : c.toNat / 16 % 16 * 16 + c.toNat % 16 = c.toNat := by omega
  simp [Reader.step, zero, digit?_hexDigit, value]

theorem Reader.run_encodeChar (c : Char) :
    Reader.run ⟨.quoted units, n⟩ (encodeChar c) = some ⟨.quoted (c.toNat :: units), n⟩ := by
  unfold encodeChar
  split
  case h_8 quote backslash _ _ _ _ _ =>
    split
    · next control => exact run_escape units n control
    · next plain =>
      have inside : c ≠ '"' ∧ c ≠ '\\' := ⟨quote, backslash⟩
      simp [Reader.step, plain, inside]
  all_goals rfl

theorem Reader.run_body (s : List Char) :
    Reader.run ⟨.quoted units, n⟩ (body s) =
      some ⟨.quoted ((s.map Char.toNat).reverse ++ units), n⟩ := by
  induction s generalizing units with
  | nil => rfl
  | cons c s ih =>
    rw [body, List.flatMap_cons, run_append, run_encodeChar, Option.bind_some, ← body, ih]
    simp

theorem Reader.run_literal (s : String) :
    Reader.run ⟨.between, n⟩ (literal s) = (n.step (.text s)).map (⟨.between, ·⟩) := by
  have opened : Reader.step ⟨.between, n⟩ '"' = some ⟨.quoted [], n⟩ := rfl
  rw [literal, List.cons_append, run_cons, opened, Option.bind_some, run_append, run_body]
  simp [Reader.step, ofUnits_map_toNat]

end

/-! ## Numbers -/

theorem isDigit_of_mem_toDigits {k : Nat} {c : Char} (mem : c ∈ Nat.toDigits 10 k) :
    c.isDigit = true :=
  Nat.isDigit_of_mem_toDigits (by decide) (by decide) mem

theorem exists_toDigits_eq_cons (k : Nat) : ∃ c rest, Nat.toDigits 10 k = c :: rest ∧
    c.isDigit = true ∧ ∀ d ∈ rest, d.isDigit = true := by
  obtain ⟨c, rest, cut⟩ := List.exists_cons_of_ne_nil (Nat.toDigits_ne_nil (b := 10) (n := k))
  have digits : ∀ d ∈ c :: rest, d.isDigit = true := fun _ mem =>
    isDigit_of_mem_toDigits (cut ▸ mem)
  exact ⟨c, rest, cut, List.forall_mem_cons.1 digits⟩

theorem whole?_toDigits (k : Nat) : whole? (Nat.toDigits 10 k) = some (Nat.toDigits 10 k, []) := by
  have digits : ∀ c ∈ Nat.toDigits 10 k, c.isDigit = true := fun _ => isDigit_of_mem_toDigits
  have noLead : Nat.toDigits 10 k = ['0'] ∨
      Nat.toDigits 10 k ≠ [] ∧ (Nat.toDigits 10 k).head? ≠ some '0' := by
    rcases Nat.eq_zero_or_pos k with rfl | positive
    · exact .inl rfl
    · exact .inr ⟨Nat.toDigits_ne_nil, Numeral.head?_toDigits (by decide) positive⟩
  rw [whole?, List.takeWhile_eq_self_iff.2 digits, List.dropWhile_eq_nil_iff.2 digits,
    if_pos noLead]

/-- A numeral is no other word. -/
theorem word?_toDigits (k : Nat) : word? (Nat.toDigits 10 k) = some (.number k 0) := by
  obtain ⟨c, rest, cut, digit, -⟩ := exists_toDigits_eq_cons k
  have unsigned : unsigned? (Nat.toDigits 10 k) = some (k, 0) := by
    simp [unsigned?, whole?_toDigits, fraction?, exponent?, Numeral.readNat_toDigits]
  have ne : c ≠ 'n' ∧ c ≠ 't' ∧ c ≠ 'f' ∧ c ≠ '-' := by
    refine ⟨?_, ?_, ?_, ?_⟩ <;> (rintro rfl; exact absurd digit (by decide))
  rw [cut] at unsigned ⊢
  simp [word?, number?, unsigned, ne]

section

variable (n : Nesting)

theorem isWordChar_of_isDigit {c : Char} (digit : c.isDigit = true) : isWordChar c = true := by
  simp [isWordChar, Char.isAlphanum, digit]

theorem Reader.run_word {s : List Char} (inside : ∀ c ∈ s, isWordChar c = true)
    (read : List Char) : Reader.run ⟨.word read, n⟩ s = some ⟨.word (read ++ s), n⟩ := by
  induction s generalizing read with
  | nil => simp
  | cons c s ih =>
    obtain ⟨first, others⟩ := List.forall_mem_cons.1 inside
    simp [Reader.step, first, ih others]

theorem Nesting.start_of_isDigit {c : Char} (digit : c.isDigit = true) :
    n.start c = some ⟨.word [c], n⟩ := by
  have ne : isSpace c = false ∧ c ≠ '"' := by
    refine ⟨?_, ?_⟩
    · rw [← Bool.not_eq_true]
      intro space
      simp only [isSpace, Bool.or_eq_true, beq_iff_eq] at space
      rcases space with ((rfl | rfl) | rfl) | rfl <;> exact absurd digit (by decide)
    · rintro rfl
      exact absurd digit (by decide)
  rw [start, if_neg (by simp [ne.1]), if_neg ne.2, if_pos (isWordChar_of_isDigit digit)]

/-- A numeral ends where a character comes that cannot be a part of it. -/
theorem Reader.run_toDigits (k : Nat) {c : Char} (ends : isWordChar c = false) (rest : List Char) :
    Reader.run ⟨.between, n⟩ (Nat.toDigits 10 k ++ c :: rest) =
      ((n.step (.value (.number k 0))).bind (·.start c)).bind (·.run rest) := by
  obtain ⟨d, more, cut, first, others⟩ := exists_toDigits_eq_cons k
  have whole : Reader.run ⟨.between, n⟩ (Nat.toDigits 10 k) =
      some ⟨.word (Nat.toDigits 10 k), n⟩ := by
    rw [cut, run_cons]
    change (n.start d).bind _ = _
    rw [n.start_of_isDigit first, Option.bind_some,
      run_word n fun e mem => isWordChar_of_isDigit (others e mem)]
    rfl
  rw [run_append, whole, Option.bind_some, run_cons]
  simp [Reader.step, ends, word?_toDigits]

end

/-! ## Objects -/

/-- A value is read up to the mark behind it. -/
theorem Reader.run_write (v : Value) (around : List Frame) {c : Char}
    (ends : isWordChar c = false) (rest : List Char) :
    Reader.run ⟨.between, ⟨.value, around⟩⟩ (v.write ++ c :: rest) =
      (Nesting.start ⟨.behind v.tree, around⟩ c).bind (·.run rest) := by
  cases v with
  | text s =>
    rw [Value.write, run_append, run_literal]
    rfl
  | number k =>
    rw [Value.write, run_toDigits _ k ends]
    rfl

theorem Reader.run_member (m : String × Value) (before : List (String × Tree)) (begun : Bool)
    (around : List Frame) {c : Char} (ends : isWordChar c = false) (rest : List Char) :
    Reader.run ⟨.between, ⟨.key before begun, around⟩⟩ (member m ++ c :: rest) =
      (Nesting.start ⟨.behind m.2.tree, .object before m.1 :: around⟩ c).bind (·.run rest) := by
  have key : Nesting.step ⟨.key before begun, around⟩ (.text m.1) =
      some ⟨.colon before m.1, around⟩ := by
    cases begun <;> rfl
  rw [member, List.append_assoc, run_append, run_literal, key]
  exact run_write m.2 (.object before m.1 :: around) ends rest

theorem Reader.run_members (m : String × Value) (members : List (String × Value))
    (before : List (String × Tree)) (begun : Bool) (around : List Frame) (rest : List Char) :
    Reader.run ⟨.between, ⟨.key before begun, around⟩⟩
        ([','].intercalate ((m :: members).map member) ++ '\x7d' :: rest) =
      Reader.run ⟨.between, ⟨.behind (.object (before.reverse ++
        (m :: members).map fun m => (m.1, m.2.tree))), around⟩⟩ rest := by
  induction members generalizing m before begun with
  | nil =>
    rw [List.map_singleton, List.intercalate_singleton,
      run_member m before begun around (by decide)]
    have closed : Nesting.start ⟨.behind m.2.tree, .object before m.1 :: around⟩ '\x7d' =
        some ⟨.between, ⟨.behind (.object ((m.1, m.2.tree) :: before).reverse), around⟩⟩ := rfl
    rw [closed, List.reverse_cons]
    rfl
  | cons next members ih =>
    rw [List.map_cons, List.map_cons, List.intercalate_cons_cons, ← List.map_cons,
      List.append_assoc, List.append_assoc, List.singleton_append,
      run_member m before begun around (by decide)]
    have separated : Nesting.start ⟨.behind m.2.tree, .object before m.1 :: around⟩ ',' =
        some ⟨.between, ⟨.key ((m.1, m.2.tree) :: before) false, around⟩⟩ := rfl
    rw [separated, Option.bind_some, ih]
    simp

theorem read_object (members : List (String × Value)) :
    read (object members) = some (.object (members.map fun m => (m.1, m.2.tree))) := by
  have opened (rest : List Char) :
      Reader.run ⟨.between, ⟨.value, []⟩⟩ ('\x7b' :: rest) =
        Reader.run ⟨.between, ⟨.key [] true, []⟩⟩ rest := rfl
  have whole : Reader.run ⟨.between, ⟨.value, []⟩⟩ ((object members).toList ++ [' ']) =
      some ⟨.between, ⟨.behind (.object (members.map fun m => (m.1, m.2.tree))), []⟩⟩ := by
    rw [object, String.toList_ofList, List.cons_append, List.cons_append, opened, List.append_assoc]
    cases members with
    | nil => rfl
    | cons m members => exact Reader.run_members m members [] true [] [' ']
  rw [read, whole]

/-! ## One line -/

theorem le_of_mem_encodeChar {c d : Char} (mem : d ∈ encodeChar c) : 0x20 ≤ d.toNat := by
  have hex (n : Nat) : 0x20 ≤ (hexDigit n).toNat := by
    have digit : ∀ k < 16, 0x20 ≤ k.digitChar.toNat := by decide
    exact digit _ (Nat.mod_lt n (by decide))
  unfold encodeChar at mem
  split at mem
  case h_8 =>
    split at mem
    · simp only [List.mem_cons, List.not_mem_nil, or_false] at mem
      rcases mem with rfl | rfl | rfl | rfl | rfl | rfl
      · decide
      · decide
      · decide
      · decide
      · exact hex _
      · exact hex _
    · next plain =>
      rw [List.mem_singleton.1 mem]
      exact Nat.le_of_not_lt plain
  all_goals
    simp only [List.mem_cons, List.not_mem_nil, or_false] at mem
    rcases mem with rfl | rfl <;> decide

theorem le_of_mem_literal {s : String} {d : Char} (mem : d ∈ literal s) : 0x20 ≤ d.toNat := by
  simp only [literal, body, List.cons_append, List.mem_cons, List.mem_append, List.mem_flatMap,
    List.not_mem_nil, or_false] at mem
  rcases mem with rfl | ⟨c, -, mem⟩ | rfl
  · decide
  · exact le_of_mem_encodeChar mem
  · decide

theorem le_of_mem_write {v : Value} {d : Char} (mem : d ∈ v.write) : 0x20 ≤ d.toNat := by
  cases v with
  | text s => exact le_of_mem_literal mem
  | number k =>
    have digit := isDigit_of_mem_toDigits mem
    simp only [Char.isDigit, Bool.and_eq_true, decide_eq_true_eq, ge_iff_le,
      UInt32.le_iff_toNat_le] at digit
    exact Nat.le_trans (by decide) digit.1

theorem le_of_mem_object {members : List (String × Value)} {d : Char}
    (mem : d ∈ (object members).toList) : 0x20 ≤ d.toNat := by
  simp only [object, String.toList_ofList, List.cons_append, List.mem_cons, List.mem_append,
    List.not_mem_nil, or_false] at mem
  rcases mem with rfl | mem | rfl
  · decide
  · rcases Stats.mem_of_mem_intercalate mem with comma | ⟨_, written, mem⟩
    · rw [List.mem_singleton.1 comma]
      decide
    · obtain ⟨m, -, rfl⟩ := List.mem_map.1 written
      simp only [member, List.mem_append, List.mem_cons] at mem
      rcases mem with mem | rfl | mem
      · exact le_of_mem_literal mem
      · decide
      · exact le_of_mem_write mem
  · decide

end AdminPort.Text.Json
