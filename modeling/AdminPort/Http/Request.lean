import AdminPort.Http.Target
import AdminPort.Text.Blank

/-!
# Requests

A request as it is handed on once it is admitted: its method and the names of
its headers are tokens, its target is well formed, and no header value holds a
control character besides the tab.

A request is chunked when one of its transfer codings is. Only header values in
visible ASCII are looked at; each is a list of codings between commas, written
in letters of either case.

Results:
1. `uri_ne_empty_of_ofParts?`: an admitted request has a target.
-/

namespace AdminPort.Http

/-- A header: its name and its value. -/
abbrev Header := String × String

/-- An admitted request. -/
structure Request where
  method : String
  target : Target
  headers : List Header
  body : String
deriving DecidableEq, Repr

/-- The characters of methods and header names. -/
def isTokenChar (c : Char) : Bool :=
  Target.isAlphanumeric c || "!#$%&'*+-.^_\x60|~".toList.contains c

/-- A text that may be a method or the name of a header. -/
def isToken (s : String) : Bool :=
  !s.isEmpty && s.toList.all isTokenChar

/-- The most bytes that the name of a header may have. -/
def maxHeaderName : Nat := 65535

/-- The characters of header values: no control besides the tab. -/
def isValueChar (c : Char) : Bool :=
  c == '\t' || (' ' ≤ c && c != '\x7f')

/-- Visible ASCII, the space and the tab. -/
def isVisible (c : Char) : Bool :=
  c == '\t' || (' ' ≤ c && c ≤ '~')

/-- Whether a header may be part of a request. -/
def isHeader (h : Header) : Bool :=
  isToken h.1 && h.1.utf8ByteSize ≤ maxHeaderName && h.2.toList.all isValueChar

/-- A text in lower case, as far as ASCII goes. -/
def lowered (s : List Char) : List Char := s.map Char.toLower

namespace Request

/-- The request that is made of the given parts, if it is admitted. -/
def ofParts? (method target : String) (headers : List Header) (body : String) :
    Option Request := do
  let target ← Target.ofString? target
  if isToken method && headers.all isHeader then some ⟨method, target, headers, body⟩ else none

/-- The request target as text. -/
def uri (r : Request) : String := r.target.text

/-- Whether a header announces the chunked coding. -/
def announcesChunked (h : Header) : Bool :=
  lowered h.1.toList == "transfer-encoding".toList && h.2.toList.all isVisible &&
    (h.2.toList.splitOn ',').any fun coding =>
      lowered (Text.trim coding) == "chunked".toList

/-- Whether the body comes in chunks. -/
def isChunked (r : Request) : Bool := r.headers.any announcesChunked

theorem uri_ne_empty_of_ofParts? {method target : String} {headers : List Header}
    {body : String} {r : Request} (h : ofParts? method target headers body = some r) :
    r.uri ≠ "" := by
  simp only [ofParts?, Option.bind_eq_bind, Option.bind_eq_some_iff] at h
  obtain ⟨t, read, h⟩ := h
  split at h
  · cases h
    exact Target.text_ne_empty_of_ofString? read
  · cases h

end Request

end AdminPort.Http
