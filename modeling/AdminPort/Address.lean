/-!
# Socket addresses

An address of a peer or a listener: four octets or eight groups, and a port. An
address of groups may name the scope that it is meant in; scope 0 is no scope.
-/

namespace AdminPort

/-- The four octets of a dotted address. -/
structure Octets where
  a : UInt8
  b : UInt8
  c : UInt8
  d : UInt8
deriving DecidableEq, Repr

/-- The eight groups of a colon-separated address. -/
structure Groups where
  list : List UInt16
  length_eq : list.length = 8
deriving DecidableEq, Repr

/-- Where a socket listens or comes from. -/
inductive Address where
  | v4 (octets : Octets) (port : UInt16)
  | v6 (groups : Groups) (scope : UInt32) (port : UInt16)
deriving DecidableEq, Repr

/-- Two octets as a group, the first one in front. -/
def groupOfOctets (high low : UInt8) : UInt16 :=
  high.toUInt16 * 256 + low.toUInt16

/-- Four octets as two groups. -/
def Octets.asGroups (o : Octets) : List UInt16 :=
  [groupOfOctets o.a o.b, groupOfOctets o.c o.d]

/-- A group as two octets, the high one in front. -/
def octetsOfGroup (g : UInt16) : UInt8 × UInt8 :=
  ((g / 256).toUInt8, g.toUInt8)

end AdminPort
