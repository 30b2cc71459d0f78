import AdminPort.Yaml.Document

/-!
# Nodes

The content of a document as a tree. Where the text of a document goes wrong, the
tree has a missing node and all collections around it end.
-/

namespace AdminPort.Yaml

/-- A node of a document. -/
inductive Node where
  /-- There is no document. -/
  | nothing (mark : Mark)
  | scalar (s : Scalar) (mark : Mark)
  | alias (number : Nat) (mark : Mark)
  | sequence (items : List Node) (mark : Mark)
  | mapping (entries : List (Node × Node)) (mark : Mark)
  /-- The text goes wrong before this node. -/
  | missing
deriving Repr

/-- A collection under way; its nodes are in reverse. -/
inductive Frame where
  | sequence (items : List Node) (mark : Mark)
  | mapping (entries : List (Node × Node)) (key : Option Node) (mark : Mark)
deriving Repr

/-- A tree under way: the open collections, innermost first, and the tree once it
is complete. -/
structure Builder where
  collections : List Frame := []
  root : Option Node := none
deriving Repr

namespace Builder

/-- A complete node put in its place. -/
def put (node : Node) (b : Builder) : Builder :=
  match b.collections with
  | [] => { b with root := b.root.or (some node) }
  | .sequence items mark :: frames =>
    { b with collections := .sequence (node :: items) mark :: frames }
  | .mapping entries none mark :: frames =>
    { b with collections := .mapping entries (some node) mark :: frames }
  | .mapping entries (some key) mark :: frames =>
    { b with collections := .mapping ((key, node) :: entries) none mark :: frames }

/-- The innermost collection ended. -/
def finish (b : Builder) : Builder :=
  match b.collections with
  | [] => b
  | .sequence items mark :: frames =>
    put (.sequence items.reverse mark) { b with collections := frames }
  | .mapping entries _ mark :: frames =>
    put (.mapping entries.reverse mark) { b with collections := frames }

/-- The innermost collection ended behind a missing node; in a mapping it is a
key or a value. -/
def breakOff (b : Builder) : Builder :=
  match b.collections with
  | .mapping entries none mark :: frames =>
    { b with collections := .mapping ((.missing, .missing) :: entries) none mark :: frames }.finish
  | _ => (put .missing b).finish

/-- One more piece of content; what follows a complete tree is not part of it. -/
def step (b : Builder) (placed : Placed) : Builder :=
  if b.root.isSome then b
  else
    match placed with
    | (.nothing, mark) => put (.nothing mark) b
    | (.alias number, mark) => put (.alias number mark) b
    | (.scalar s, mark) => put (.scalar s mark) b
    | (.sequenceBegin, mark) => { b with collections := .sequence [] mark :: b.collections }
    | (.mappingBegin, mark) => { b with collections := .mapping [] none mark :: b.collections }
    | (.sequenceFinish, _) => b.finish
    | (.mappingFinish, _) => b.finish

/-- The tree once there is no more content. -/
def complete (b : Builder) : Node :=
  ((Nat.repeat breakOff b.collections.length b).root).getD .missing

end Builder

namespace Node

/-- The tree that content begins with. -/
def ofContent (content : List Placed) : Node := (content.foldl Builder.step {}).complete

end Node

namespace Document

/-- The tree of a document. -/
def root (d : Document) : Node := .ofContent d.content

/-- A node in the place of an alias; any other node stays what it is. -/
def follow (d : Document) : Node → Node
  | .alias number _ => .ofContent (d.target number)
  | node => node

end Document

end AdminPort.Yaml
