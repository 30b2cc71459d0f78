import AdminPort.Address
import AdminPort.Text.Numeral

/-!
# Writing socket addresses

The canonical text of an address: octets without leading zeros, groups in lower
case without leading zeros. The longest run of at least two zero groups is left
out between two colons, the first one if several are longest. Groups that carry
a dotted address are written with octets at the end. Scope 0 is not written.

Results:
1. `zeroRun_le_length`: a run lies inside the groups.
-/

namespace AdminPort

open Text.Numeral (decimal hex)

/-- Octets between dots. -/
def Octets.text (o : Octets) : String :=
  decimal o.a.toNat ++ "." ++ decimal o.b.toNat ++ "." ++ decimal o.c.toNat ++ "." ++
    decimal o.d.toNat

namespace Address

/-- The length of the run of zero groups at the front. -/
def zeroRun (groups : List UInt16) : Nat :=
  (groups.takeWhile (· == 0)).length

/-- Place and length of the longest run of zero groups, the first one if several
are longest. -/
def longestZeroRun : List UInt16 → Nat × Nat
  | [] => (0, 0)
  | g :: rest =>
    let here := zeroRun (g :: rest)
    let (place, length) := longestZeroRun rest
    if length ≤ here then (0, here) else (place + 1, length)

/-- Groups between colons. -/
def joinGroups (groups : List UInt16) : String :=
  String.intercalate ":" (groups.map fun g => hex g.toNat)

/-- The octets of groups that carry a dotted address. -/
def mappedOctets? : List UInt16 → Option Octets
  | [0, 0, 0, 0, 0, 0xffff, high, low] =>
    some ⟨(octetsOfGroup high).1, (octetsOfGroup high).2, (octetsOfGroup low).1,
      (octetsOfGroup low).2⟩
  | _ => none

end Address

open Address in
/-- The canonical text of groups. -/
def Groups.text (g : Groups) : String :=
  match mappedOctets? g.list with
  | some octets => "::ffff:" ++ octets.text
  | none =>
    let (place, length) := longestZeroRun g.list
    if 2 ≤ length then
      joinGroups (g.list.take place) ++ "::" ++ joinGroups (g.list.drop (place + length))
    else joinGroups g.list

namespace Address

/-- A scope behind a percent sign; scope 0 is not written. -/
def scopeText (scope : UInt32) : String :=
  if scope = 0 then "" else "%" ++ decimal scope.toNat

/-- The canonical text of an address. -/
def text : Address → String
  | v4 octets port => octets.text ++ ":" ++ decimal port.toNat
  | v6 groups scope port =>
    "[" ++ groups.text ++ scopeText scope ++ "]:" ++ decimal port.toNat

theorem zeroRun_le_length (groups : List UInt16) : zeroRun groups ≤ groups.length :=
  (List.takeWhile_sublist _).length_le

end Address

end AdminPort
