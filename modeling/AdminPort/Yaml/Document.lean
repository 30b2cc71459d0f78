import AdminPort.Yaml.Event

/-!
# Documents

The first document of a text: its content in order, with every alias tied to the
anchor that it names, and what is wrong with the text, if anything is. The
content goes as far as the text makes sense, because whoever reads the content
may find something to object to before that.

An anchor is numbered by the count of names before it. So a name that is used
again takes a new number, which the next new name takes over; an alias always
goes to the latest node under its number.
-/

namespace AdminPort.Yaml

/-- A piece of content. -/
inductive Content where
  /-- The whole of a text without any document. -/
  | nothing
  | alias (number : Nat)
  | scalar (s : Scalar)
  | sequenceBegin
  | sequenceFinish
  | mappingBegin
  | mappingFinish
deriving DecidableEq, Repr

/-- A piece of content and the place where it begins. -/
abbrev Placed := Content × Mark

/-- What is wrong with a text as a document. -/
inductive TextFault where
  /-- The text is not well formed. -/
  | malformed
  /-- An alias names no anchor in front of it. -/
  | unknownAnchor (mark : Mark)
  /-- There is more than one document. -/
  | manyDocuments
deriving DecidableEq, Repr

/-- The first document of a text. -/
structure Document where
  content : List Placed := []
  /-- Where the node of each anchor begins in the content. -/
  anchors : List (Nat × Nat) := []
  /-- Why the content breaks off, if it does. -/
  brokenOff : Option TextFault := none
  /-- What is wrong behind the document, if anything is. -/
  behind : Option TextFault := none
deriving DecidableEq, Repr

namespace Document

/-- A document under way, with the numbers of the anchor names so far. -/
structure Draft where
  document : Document := {}
  names : List (String × Nat) := []

namespace Draft

/-- One more piece of content. -/
def add (d : Draft) (content : Content) (mark : Mark) : Draft :=
  { d with document := { d.document with content := d.document.content ++ [(content, mark)] } }

/-- The anchor of the next piece of content, if it has one. -/
def anchor (d : Draft) : Option String → Draft
  | none => d
  | some name =>
    let number := d.names.length
    { document :=
        { d.document with anchors := (number, d.document.content.length) :: d.document.anchors }
      names := (name, number) :: d.names.filter (·.1 != name) }

/-- The document with a reason why it breaks off. -/
def breakOff (d : Draft) (fault : TextFault) : Document :=
  { d.document with brokenOff := some fault }

end Draft

/-- The document that events go on with, behind its beginning. -/
def load : Draft → List Event → Document
  | d, [] => d.breakOff .malformed
  | d, ⟨kind, mark⟩ :: rest =>
    match kind with
    | .documentFinish =>
      match rest with
      | ⟨.streamFinish, _⟩ :: _ => d.document
      | _ => { d.document with behind := some .manyDocuments }
    | .alias name =>
      match d.names.lookup name with
      | none => d.breakOff (.unknownAnchor mark)
      | some number => load (d.add (.alias number) mark) rest
    | .scalar anchor scalar => load ((d.anchor anchor).add (.scalar scalar) mark) rest
    | .sequenceBegin properties => load ((d.anchor properties.anchor).add .sequenceBegin mark) rest
    | .sequenceFinish => load (d.add .sequenceFinish mark) rest
    | .mappingBegin properties => load ((d.anchor properties.anchor).add .mappingBegin mark) rest
    | .mappingFinish => load (d.add .mappingFinish mark) rest
    | .documentBegin => load d rest
    | .streamFinish => (d.add .nothing mark).document

/-- The first document of a text. -/
def ofText (text : String) : Document := load {} (events text)

/-- The content that an alias leads to, from the node of its anchor on. -/
def target (d : Document) (number : Nat) : List Placed :=
  d.content.drop ((d.anchors.lookup number).getD d.content.length)

end Document

end AdminPort.Yaml
