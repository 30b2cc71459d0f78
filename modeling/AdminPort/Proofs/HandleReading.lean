import AdminPort.Connection.Handle
import AdminPort.Proofs.AddressReading

/-!
# Handles that are told apart

The text of a handle says which connection it is. Its number can be read from the
hexadecimal digits between the mark in front and the comma, and its peer from what stands
behind the comma; where no peer is known no address stands there. So two handles have one
text only if they are the same.

Results:
1. `ofText?_text`: a handle is read back from its text.
2. `text_identifies`: a handle and its text determine each other.
-/

namespace AdminPort.Handle

open Text.Numeral (readNat)

/-! ## Definitions -/

/-- The digits of the number in the text of a handle, and the text of the peer. -/
def parts? (text : String) : Option (List Char × List Char) := do
  let inside ← text.toList.dropPrefix? "[id: 0x".toList
  let behind ← (inside.dropWhile (· ≠ ',')).dropPrefix? ", ".toList
  if behind.getLast? = some ']' then some (inside.takeWhile (· ≠ ','), behind.dropLast) else none

/-- The handle that a text shows. -/
def ofText? (text : String) : Option Handle := do
  let (digits, peer) ← parts? text
  let id ← (readNat 16 digits).filter (· < UInt64.size)
  some ⟨.ofNat id, Address.ofString? (String.ofList peer)⟩

/-- A hexadecimal digit in lower case. -/
def IsLowerHex (c : Char) : Prop :=
  c.isDigit = true ∨ 'a' ≤ c ∧ c ≤ 'f'

/-- The digits of a number as they are written, eight of them at least. -/
def digits (id : UInt64) : List Char :=
  List.replicate (8 - (Nat.toDigits 16 id.toNat).length) '0' ++ Nat.toDigits 16 id.toNat

/-! ## Numbers -/

section

variable (id : UInt64)

theorem readNat_digits : readNat 16 (digits id) = some id.toNat :=
  Text.Numeral.readNat_zeros_toDigits (by decide) (by decide) _ _

theorem le_length_digits : 8 ≤ (digits id).length := by
  rw [digits, List.length_append, List.length_replicate]
  omega

theorem isLowerHex_of_mem_digits {c : Char} (mem : c ∈ digits id) : IsLowerHex c := by
  have digit : ∀ d < 16, IsLowerHex d.digitChar := by
    unfold IsLowerHex
    decide
  rcases List.mem_append.1 mem with zero | mem
  · rw [List.eq_of_mem_replicate zero]
    exact .inl rfl
  · obtain ⟨d, less, rfl⟩ := Text.Numeral.exists_of_mem_toDigits (by decide) mem
    exact digit d less

theorem ne_comma_of_mem_digits {c : Char} (mem : c ∈ digits id) : c ≠ ',' := by
  rintro rfl
  exact absurd (isLowerHex_of_mem_digits id mem) (by unfold IsLowerHex; decide)

end

/-! ## Peers -/

theorem ofString?_unknownPeer : Address.ofString? "unknown peer" = none := by decide

theorem ofString?_peerText (peer : Option Address) :
    Address.ofString? (peerText peer) = peer := by
  cases peer with
  | none => exact ofString?_unknownPeer
  | some a => exact Address.ofString?_text a

/-! ## Main result -/

variable (handle other : Handle)

theorem text_eq : handle.text =
    "[id: 0x" ++ String.ofList (digits handle.id) ++ ", " ++ peerText handle.peer ++ "]" := by
  apply String.toList_inj.1
  simp [text, idText, digits]

/-- The comma behind the number is the first one. -/
theorem parts?_text :
    parts? handle.text = some (digits handle.id, (peerText handle.peer).toList) := by
  have number : ∀ c ∈ digits handle.id, decide (c ≠ ',') = true := fun c mem =>
    decide_eq_true (ne_comma_of_mem_digits handle.id mem)
  have comma (s : List Char) : (", ".toList ++ s).takeWhile (fun c => decide (c ≠ ',')) = [] ∧
      (", ".toList ++ s).dropWhile (fun c => decide (c ≠ ',')) = ", ".toList ++ s := ⟨rfl, rfl⟩
  have cut : handle.text.toList = "[id: 0x".toList ++ (digits handle.id ++
      (", ".toList ++ ((peerText handle.peer).toList ++ [']']))) := by
    simp [text_eq]
  have drop (front s : List Char) : (front ++ s).dropPrefix? front = some s :=
    List.dropPrefix?_append_of_beq s (beq_self_eq_true front)
  simp only [parts?, cut, drop, Option.bind_eq_bind, Option.bind_some, comma,
    List.takeWhile_append_of_pos number, List.dropWhile_append_of_pos number]
  simp

theorem ofText?_text : ofText? handle.text = some handle := by
  have small : handle.id.toNat < UInt64.size := handle.id.toNat_lt
  simp [ofText?, parts?_text, readNat_digits, Option.filter, small, ofString?_peerText]

theorem text_inj {handle other : Handle} : handle.text = other.text ↔ handle = other := by
  refine ⟨fun same => ?_, congrArg text⟩
  have read := congrArg ofText? same
  rw [ofText?_text, ofText?_text] at read
  exact Option.some.inj read

/-- A handle and its text determine each other: handles with one text have one number and
one peer. The number is written in at least eight hexadecimal digits in lower case and is
read from them, the peer is read from what stands behind the comma, and what is said of an
unknown peer is no address. -/
theorem text_identifies :
    (handle.text = other.text ↔ handle.id = other.id ∧ handle.peer = other.peer) ∧
      ofText? handle.text = some handle ∧
      (∃ number peer : String, handle.text = "[id: 0x" ++ number ++ ", " ++ peer ++ "]" ∧
        8 ≤ number.length ∧ (∀ c ∈ number.toList, IsLowerHex c) ∧
        readNat 16 number.toList = some handle.id.toNat ∧
        Address.ofString? peer = handle.peer ∧ (handle.peer = none ↔ peer = "unknown peer")) ∧
      Address.ofString? "unknown peer" = none := by
  refine ⟨?_, ofText?_text handle, ?_, ofString?_unknownPeer⟩
  · rw [text_inj]
    cases handle
    cases other
    exact Iff.of_eq (Handle.mk.injEq ..)
  · refine ⟨String.ofList (digits handle.id), peerText handle.peer, text_eq handle, ?_⟩
    refine ⟨?_, ?_, ?_, ofString?_peerText handle.peer, ?_⟩
    · simpa using le_length_digits handle.id
    · simpa using fun c => isLowerHex_of_mem_digits handle.id
    · simpa using readNat_digits handle.id
    · constructor
      · intro unknown
        rw [unknown]
        rfl
      · intro unknown
        rw [← ofString?_peerText handle.peer, unknown, ofString?_unknownPeer]

/-- A number that needs nine digits, and a peer whose text has octets in groups. -/
example :
    let peer : Address := .v6 ⟨[0, 0, 0, 0, 0, 0xffff, 0x102, 0x304], rfl⟩ 5 80
    text ⟨0x100000000, some peer⟩ = "[id: 0x100000000, [::ffff:1.2.3.4%5]:80]" ∧
      text ⟨1, none⟩ = "[id: 0x00000001, unknown peer]" := by decide +kernel

end AdminPort.Handle
