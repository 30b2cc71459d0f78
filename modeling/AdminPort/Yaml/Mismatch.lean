import AdminPort.Text.Quoted
import AdminPort.Yaml.Node
import AdminPort.Yaml.Number

/-!
# Documents that do not fit

What a document holds where something else is expected, and the words for it. A
plain scalar is a null, a truth value, a number or a text by its spelling, and a
text in any other style; one of four tags decides instead of the spelling.
-/

namespace AdminPort.Yaml

/-- What a document holds in some place. -/
inductive Found where
  | null
  | truth (b : Bool)
  | integer (n : Int)
  /-- An integer beyond 64 bits. -/
  | wideInteger (n : Int)
  | real (r : Real)
  | text (s : String)
  | sequence
  | mapping
deriving DecidableEq, Repr

/-- The words for what a document holds. -/
def Found.describe : Found → String
  | null => "unit value"
  | truth b => "boolean \x60" ++ (if b then "true" else "false") ++ "\x60"
  | integer n => "integer \x60" ++ integerText n ++ "\x60"
  | wideInteger n =>
    "integer \x60" ++ integerText n ++ (if n < 0 then "\x60 as i128" else "\x60 as u128")
  | real r => "floating point \x60" ++ r.text ++ "\x60"
  | text s => "string " ++ Text.Quoted.quote s
  | sequence => "sequence"
  | mapping => "map"
where
  /-- The decimal text of an integer. -/
  integerText (n : Int) : String :=
    (if n < 0 then "-" else "") ++ Text.Numeral.decimal n.natAbs

/-- Why a document does not fit. -/
inductive Mismatch where
  | wrongType (found : Found) (expected : String)
  | wrongValue (found : Found) (expected : String)
  | missingField (name : String)
  | duplicateField (name : String)
  | unknownField (name : String) (known : List String)
deriving DecidableEq, Repr

/-- A name between marks. -/
def markedName (name : String) : String := "\x60" ++ name ++ "\x60"

/-- The words for the names that are known. -/
def knownNames (names : List String) : String :=
  match names with
  | [a, b] => markedName a ++ " or " ++ markedName b
  | names => "one of " ++ String.intercalate ", " (names.map markedName)

/-- The words for a mismatch. -/
def Mismatch.describe : Mismatch → String
  | wrongType found expected => "invalid type: " ++ found.describe ++ ", expected " ++ expected
  | wrongValue found expected => "invalid value: " ++ found.describe ++ ", expected " ++ expected
  | missingField name => "missing field " ++ markedName name
  | duplicateField name => "duplicate field " ++ markedName name
  | unknownField name known =>
    "unknown field " ++ markedName name ++ ", expected " ++ knownNames known

/-! ## Scalars -/

/-- The spellings of null, but for the empty one. -/
def isNullWord (s : String) : Bool := ["null", "Null", "NULL", "~"].contains s

/-- The spellings of the truth values. -/
def truth? (s : String) : Option Bool :=
  if ["true", "True", "TRUE"].contains s then some true
  else if ["false", "False", "FALSE"].contains s then some false
  else none

/-- An integer of up to 128 bits. -/
def integer? (s : List Char) : Option Found :=
  ((unsigned? UInt64.size s).map fun n => .integer n)
    |>.or ((negative? (UInt64.size / 2) s).map fun n => .integer (-n))
    |>.or ((unsigned? (UInt64.size * UInt64.size) s).map fun n => .wideInteger n)
    |>.or ((negative? (UInt64.size * UInt64.size / 2) s).map fun n => .wideInteger (-n))

/-- What a plain scalar means by its spelling. -/
def Found.ofPlain (s : String) : Found :=
  if s.isEmpty || isNullWord s then null
  else
    let number :=
      (integer? s.toList).or
        (if hasLeadingZeros s.toList then none else (real? s.toList).map .real)
    ((truth? s).map .truth).or number |>.getD (.text s)

/-- The tag of a truth value. -/
def truthTag : String := "tag:yaml.org,2002:bool"

/-- The tag of an integer. -/
def integerTag : String := "tag:yaml.org,2002:int"

/-- The tag of a number. -/
def realTag : String := "tag:yaml.org,2002:float"

/-- The tag of a null. -/
def nullTag : String := "tag:yaml.org,2002:null"

/-- What a scalar is by its tag, if the tag is one of the four; the words for what
its text has to be, if it is not. -/
def Scalar.tagged? (s : Scalar) : Option (Except String Found) := do
  let tag ← s.tag
  let ensure (found : Option Found) (expected : String) : Except String Found :=
    match found with
    | some found => .ok found
    | none => .error expected
  if tag = truthTag then some (ensure ((truth? s.text).map .truth) "a boolean")
  else if tag = integerTag then some (ensure (integer? s.text.toList) "an integer")
  else if tag = realTag then some (ensure ((real? s.text.toList).map .real) "a float")
  else if tag = nullTag then some (ensure (if isNullWord s.text then some .null else none) "null")
  else none

/-- Whether the spelling of a scalar counts: it is plain and its tag, if it has
one, is a local one. -/
def Scalar.isSpelled (s : Scalar) : Bool :=
  s.style == .plain && s.tag.all fun tag => "!".toList.isPrefixOf tag.toList

/-- Why a scalar does not fit where something else is expected. -/
def Scalar.mismatch (s : Scalar) (expected : String) : Mismatch :=
  match s.tagged? with
  | some (.ok found) => .wrongType found expected
  | some (.error needed) => .wrongValue (.text s.text) needed
  | none => .wrongType (if s.isSpelled then .ofPlain s.text else .text s.text) expected

/-- Whether a scalar is plain and empty, so that it stands for nothing at all. -/
def Scalar.isBlank (s : Scalar) : Bool := s.style == .plain && s.text.isEmpty

/-! ## Places -/

/-- One step of the way to a place in a document: a key, or a key that is no scalar. -/
inductive PathStep where
  | key (name : String)
  | unnamed
deriving DecidableEq, Repr

/-- The text of a step. -/
def PathStep.text : PathStep → String
  | key name => name
  | unnamed => "?"

/-- A place in a document: the way to it and where it begins in the text. -/
structure Place where
  path : List PathStep
  mark : Mark
deriving DecidableEq, Repr

/-- The words for a place in the text; the very beginning goes without them. -/
def Mark.describe (m : Mark) : String :=
  if m = ⟨0, 0⟩ then ""
  else
    " at line " ++ Text.Numeral.decimal (m.line + 1) ++ " column " ++
      Text.Numeral.decimal (m.column + 1)

/-- The way to a place in front of what is said about it. -/
def Place.label (p : Place) : String :=
  if p.path.isEmpty then ""
  else String.intercalate "." (p.path.map PathStep.text) ++ ": "

/-- Why a text is not the document that is asked for. -/
inductive DocumentFault where
  | text (fault : TextFault)
  | mismatch (cause : Mismatch) (place : Place)
deriving DecidableEq, Repr

/-- The words for a fault of a document. -/
def DocumentFault.describe : DocumentFault → String
  | text .malformed => "the text is malformed"
  | text (.unknownAnchor mark) => "unknown anchor" ++ mark.describe
  | text .manyDocuments =>
    "deserializing from YAML containing more than one document is not supported"
  | mismatch cause place => place.label ++ cause.describe ++ place.mark.describe

end AdminPort.Yaml
