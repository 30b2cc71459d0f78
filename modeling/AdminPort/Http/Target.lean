/-!
# Request targets

What a request asks for: a path with an optional query, the same behind a scheme
and an authority, a bare authority, or a star. A fragment is dropped. A target
with a scheme and no path has the path "/".

Results:
1. `text_ne_empty_of_ofString?`: no target that is read is written as nothing.
-/

namespace AdminPort.Http

/-- A request target in parts. -/
structure Target where
  scheme : Option String
  authority : String
  path : String
  query : Option String
deriving DecidableEq, Repr

namespace Target

/-- The text of a target. -/
def text (t : Target) : String :=
  let scheme := match t.scheme with
    | some scheme => scheme ++ "://"
    | none => ""
  let query := match t.query with
    | some query => "?" ++ query
    | none => ""
  scheme ++ t.authority ++ t.path ++ query

/-! ## Characters -/

/-- Letters and digits of ASCII. -/
def isAlphanumeric (c : Char) : Bool :=
  ('0' ≤ c && c ≤ '9') || ('A' ≤ c && c ≤ 'Z') || ('a' ≤ c && c ≤ 'z')

/-- Visible ASCII without the given characters, and everything beyond ASCII. -/
def isVisibleBut (refused : List Char) (c : Char) : Bool :=
  ('!' ≤ c && c ≤ '~' && !refused.contains c) || '\x7f' < c

/-- The characters of a path. -/
def isPathChar : Char → Bool := isVisibleBut ['<', '>', '\x60', '^', '|', '#', '?']

/-- The characters of a query. -/
def isQueryChar : Char → Bool := isVisibleBut ['"', '<', '>', '#']

/-- The characters of a scheme. -/
def isSchemeChar (c : Char) : Bool :=
  isAlphanumeric c || ['+', '-', '.', '~'].contains c

/-- The characters that end an authority. -/
def endsAuthority (c : Char) : Bool := c == '/' || c == '?' || c == '#'

/-- The characters of an authority. -/
def isAuthorityChar (c : Char) : Bool :=
  isAlphanumeric c || "!$&'()*+,-.:;=@[]_~%".toList.contains c

/-! ## Authorities -/

/-- What an authority has shown so far: colons since its user part or its
brackets, brackets, and a percent sign since either of them. -/
structure AuthorityScan where
  colons : Nat := 0
  opened : Bool := false
  closed : Bool := false
  percent : Bool := false

/-- One more character of an authority. -/
def AuthorityScan.step (scan : AuthorityScan) (c : Char) : Option AuthorityScan :=
  match c with
  | ':' => if scan.colons < 8 then some { scan with colons := scan.colons + 1 } else none
  | '[' => if scan.percent || scan.opened then none else some { scan with opened := true }
  | ']' =>
    if !scan.opened || scan.closed then none
    else some { scan with closed := true, colons := 0, percent := false }
  | '@' => some { scan with colons := 0, percent := false }
  | '%' => some { scan with percent := true }
  | _ => some scan

/-- An authority has at most one colon and no percent sign in its host, brackets
in a pair, and something behind its user part. -/
def isAuthority (s : List Char) : Bool :=
  s.all isAuthorityChar &&
    match s.foldlM AuthorityScan.step {} with
    | none => false
    | some scan =>
      scan.opened == scan.closed && scan.colons ≤ 1 && s.getLast? != some '@' && !scan.percent

/-! ## Reading -/

/-- Path and query; a fragment behind them is dropped unread. -/
def readPath (s : List Char) : Option (String × Option String) :=
  let path := s.takeWhile fun c => c != '?' && c != '#'
  if !path.all isPathChar then none
  else
    match s.dropWhile fun c => c != '?' && c != '#' with
    | '?' :: rest =>
      let query := rest.takeWhile (· != '#')
      if query.all isQueryChar then some (String.ofList path, some (String.ofList query)) else none
    | _ => some (String.ofList path, none)

/-- The longest scheme. -/
def maxScheme : Nat := 64

/-- A scheme at the front of a text, in the form it is written back, and what
follows its two slashes. The two common schemes are written in lower case. The
outer option is empty for a scheme that is too long. -/
def readScheme (s : List Char) : Option (Option (String × List Char)) :=
  let name := s.takeWhile isSchemeChar
  match s.dropWhile isSchemeChar with
  | ':' :: '/' :: '/' :: rest =>
    let lowered := String.ofList (name.map Char.toLower)
    if lowered = "http" ∨ lowered = "https" then some (some (lowered, rest))
    else if s.length ≤ 3 then some none
    else if maxScheme < name.length then none
    else some (some (String.ofList name, rest))
  | _ => some none

/-- A bare authority, or a scheme, an authority and a path. -/
def readFull (s : List Char) : Option Target := do
  let (scheme, rest) ← match ← readScheme s with
    | some (scheme, rest) => some (some scheme, rest)
    | none => some (none, s)
  let authority := rest.takeWhile (!endsAuthority ·)
  let behind := rest.dropWhile (!endsAuthority ·)
  if !isAuthority authority || (authority.isEmpty && scheme.isSome) then none
  else if scheme.isNone then
    if behind.isEmpty then some ⟨none, String.ofList authority, "", none⟩ else none
  else
    let (path, query) ← readPath behind
    some ⟨scheme, String.ofList authority, if path.isEmpty then "/" else path, query⟩

/-- The most bytes that a target may have. -/
def maxBytes : Nat := 65534

/-- The target that a text is. -/
def ofString? (text : String) : Option Target :=
  if maxBytes < text.utf8ByteSize then none
  else
    match text.toList with
    | [] => none
    | ['*'] => some ⟨none, "", "*", none⟩
    | '/' :: _ => (readPath text.toList).map fun (path, query) => ⟨none, "", path, query⟩
    | s => readFull s

/-! ## Targets that are read -/

theorem text_ne_empty_of_path {t : Target} (h : t.path ≠ "") : t.text ≠ "" := by
  simp [text, String.append_eq_empty_iff, h]

theorem path_ne_empty_of_readPath {rest : List Char} {path : String} {query : Option String}
    (h : readPath ('/' :: rest) = some (path, query)) : path ≠ "" := by
  unfold readPath at h
  dsimp only at h
  split at h
  · cases h
  split at h
  · split at h <;> cases h
    simp
  · cases h
    simp

theorem text_ne_empty_of_readFull {s : List Char} {t : Target} (nonempty : s ≠ [])
    (h : readFull s = some t) : t.text ≠ "" := by
  simp only [readFull, Option.bind_eq_bind, Option.bind_eq_some_iff] at h
  obtain ⟨scheme?, -, h⟩ := h
  cases scheme? with
  | none =>
    -- a bare authority is the whole text
    simp only [Option.bind_some, Option.isNone_none, if_true] at h
    split at h
    · cases h
    split at h
    · next all =>
      cases h
      have whole : s.takeWhile (!endsAuthority ·) = s := by
        have split := s.takeWhile_append_dropWhile (p := (!endsAuthority ·))
        rwa [List.isEmpty_iff.1 all, List.append_nil] at split
      simp [text, whole, nonempty]
    · cases h
  | some found =>
    -- behind a scheme there is a path, if only the slash
    obtain ⟨scheme, rest⟩ := found
    simp only [Option.bind_some, Option.isNone_some, Bool.false_eq_true, if_false] at h
    split at h
    · cases h
    obtain ⟨⟨path, query⟩, -, h⟩ := Option.bind_eq_some_iff.1 h
    cases h
    apply text_ne_empty_of_path
    dsimp only
    split
    · decide
    · next nonempty => simpa using nonempty

theorem text_ne_empty_of_ofString? {s : String} {t : Target} (h : ofString? s = some t) :
    t.text ≠ "" := by
  unfold ofString? at h
  split at h
  · cases h
  split at h
  · cases h
  · cases h
    exact text_ne_empty_of_path (by decide)
  · next starts =>
    obtain ⟨⟨path, query⟩, read, rfl⟩ := Option.map_eq_some_iff.1 h
    rw [starts] at read
    exact text_ne_empty_of_path (path_ne_empty_of_readPath read)
  · next nonempty _ _ => exact text_ne_empty_of_readFull (by simpa using nonempty) h

end Target

end AdminPort.Http
