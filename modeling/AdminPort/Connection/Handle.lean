import AdminPort.Address.Printer

/-!
# Connection handles

A handle names a connection: a number that no other connection has, and the
address of the peer where one is known. Its text goes into the journal.
-/

namespace AdminPort

/-- The name of a connection. -/
structure Handle where
  id : UInt64
  peer : Option Address
deriving DecidableEq, Repr

namespace Handle

/-- The number of a connection: at least eight hexadecimal digits behind "0x". -/
def idText (id : UInt64) : String :=
  let digits := Nat.toDigits 16 id.toNat
  String.ofList ('0' :: 'x' :: List.replicate (8 - digits.length) '0' ++ digits)

/-- The address of a peer, if it is known. -/
def peerText : Option Address → String
  | some peer => peer.text
  | none => "unknown peer"

/-- The text of a handle. -/
def text (handle : Handle) : String :=
  "[id: " ++ idText handle.id ++ ", " ++ peerText handle.peer ++ "]"

end Handle

end AdminPort
