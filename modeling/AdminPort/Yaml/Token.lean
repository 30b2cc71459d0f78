import AdminPort.Yaml.Source

/-!
# Tokens

The words of a document. Most stand in the text as they are; the beginnings and
ends of block collections, and the keys of mappings that have no sign of their
own, follow from indentation and from the colon behind a key.
-/

namespace AdminPort.Yaml

/-- How a scalar is written. -/
inductive ScalarStyle where
  | plain
  | singleQuoted
  | doubleQuoted
  | literal
  | folded
deriving DecidableEq, Repr

/-- What a token says. -/
inductive TokenKind where
  | streamEnd
  | versionDirective (major minor : Nat)
  | tagDirective (handle : String) (uri : String)
  | documentBegin
  | documentFinish
  | blockSequenceBegin
  | blockMappingBegin
  | blockFinish
  | flowSequenceBegin
  | flowSequenceFinish
  | flowMappingBegin
  | flowMappingFinish
  | blockEntry
  | flowEntry
  | key
  | value
  | alias (name : String)
  | anchor (name : String)
  | tag (handle suffix : String)
  | scalar (text : String) (style : ScalarStyle)
deriving DecidableEq, Repr

/-- A token with the places where it begins and ends. -/
structure Token where
  kind : TokenKind
  start : Mark
  stop : Mark
deriving DecidableEq, Repr

end AdminPort.Yaml
