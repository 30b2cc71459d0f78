import AdminPort.Config.Load

/-!
# Trees of files

The files and directories of a system and its working directory, and what the
system says about a path. A path is followed name by name, from the top if it
begins with a slash and from the working directory if not; a file on the way, or a
slash behind a file, is an error, and so is a name that is too long.

Results:
1. `FileTree.resolve_empty`: nothing is found under an empty path.
-/

namespace AdminPort

/-- A file with its content, or a directory. -/
inductive FileEntry where
  | file (content : ByteArray)
  | directory

/-- Files and directories by the names on the way to them from the top. The
directories on the way need not be listed, nor the working directory. -/
structure FileTree where
  entries : List (List String × FileEntry) := []
  /-- The names on the way to the working directory. -/
  home : List String := ["srv", "tsdadmin"]

namespace FileTree

/-- The names of a path. -/
def names (path : String) : List String := path.splitOn "/"

/-- Whether a name is none of a file's own. -/
def isStay (name : String) : Bool := name == "" || name == "."

/-- A tree with one more entry at a path from the working directory. -/
def add (tree : FileTree) (path : String) (entry : FileEntry) : FileTree :=
  { tree with entries := (tree.home ++ (names path).filter (!isStay ·), entry) :: tree.entries }

/-- What is at a place in the tree. -/
def find? (tree : FileTree) (place : List String) : Option FileEntry :=
  match tree.entries.find? (·.1 == place) with
  | some (_, entry) => some entry
  | none =>
    if place.isPrefixOf tree.home || tree.entries.any fun entry => place.isPrefixOf entry.1 then
      some .directory
    else none

/-- The most bytes of a name. -/
def maxName : Nat := 255

/-- The most bytes of a path. -/
def maxPath : Nat := 4095

/-- One name further. Nothing is above the top. -/
def step (tree : FileTree) (place : List String) (name : String) :
    Except FileFault (List String) :=
  match tree.find? place with
  | none => .error .notFound
  | some (.file _) => .error .notDirectory
  | some .directory =>
    if isStay name then .ok place
    else if name == ".." then .ok place.dropLast
    else if maxName < name.utf8ByteSize then .error .nameTooLong
    else .ok (place ++ [name])

/-- Where a path begins: at the top or in the working directory. -/
def origin (tree : FileTree) (path : String) : List String :=
  if path.toList.head? == some '/' then [] else tree.home

/-- What a path leads to. -/
def resolve (tree : FileTree) (path : String) : Except FileFault FileEntry := do
  if path.toList.contains '\x00' then .error .zeroInName
  else if path.isEmpty then .error .notFound
  else if maxPath < path.utf8ByteSize then .error .nameTooLong
  else
    let place ← (names path).foldlM (step tree) (tree.origin path)
    match tree.find? place with
    | some entry => .ok entry
    | none => .error .notFound

/-- What the system says about a path. -/
def view (tree : FileTree) (path : String) : FileView :=
  match tree.resolve path with
  | .error fault => ⟨.error fault, .error fault⟩
  | .ok .directory => ⟨.ok (), .error .isDirectory⟩
  | .ok (.file content) => ⟨.ok (), .ok content⟩

theorem resolve_empty (tree : FileTree) : tree.resolve "" = .error .notFound := rfl

end FileTree

end AdminPort
