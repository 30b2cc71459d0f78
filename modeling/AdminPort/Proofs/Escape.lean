import AdminPort.Text.Markup

/-!
# Escaped text is inert

Text that is escaped can be written anywhere in a page without becoming markup:
it holds none of the characters that open or close a tag or a quotation, and an
ampersand in it is never on its own but always the front of an entity.

These are the only texts that escaping gives: a text without markup is what its
reading is escaped to. So escaping and reading are inverse to each other between
all texts and the inert ones, and a text that looks like an entity is told apart
from what the entity stands for.

Results:
1. `Inert.append`: inert texts are inert one behind the other.
2. `inert_encode`: an escaped text is inert.
3. `encode_decode`: an inert text is an escaped one.
4. `escape_lossless`: what is escaped is read back, and conversely.
-/

namespace AdminPort.Text.Markup

/-! ## Definitions -/

/-- The characters that open or close a tag or a quotation. -/
def isDelimiter (c : Char) : Bool :=
  ['<', '>', '"', '\''].contains c

/-- The entities that stand for one of the five characters with a meaning. -/
def entities : List (List Char) :=
  [['&', 'a', 'm', 'p', ';'], ['&', 'l', 't', ';'], ['&', 'g', 't', ';'],
    ['&', 'q', 'u', 'o', 't', ';'], ['&', '#', '3', '9', ';']]

/-- `Inert s`: the text holds no markup.

* `delimiters`: it neither opens nor closes a tag or a quotation.
* `ampersands`: each of its ampersands begins an entity. -/
structure Inert (s : List Char) : Prop where
  delimiters : ∀ c ∈ s, isDelimiter c = false
  ampersands : ∀ front behind, s = front ++ '&' :: behind →
    ∃ entity ∈ entities, entity <+: '&' :: behind

/-- `decode` on strings. -/
def unescape (s : String) : String :=
  String.ofList (decode s.toList)

/-! ## Pieces -/

theorem Inert.nil : Inert [] :=
  ⟨by simp, by simp⟩

theorem Inert.append {s t : List Char} (hs : Inert s) (ht : Inert t) : Inert (s ++ t) where
  delimiters c mem := by
    rcases List.mem_append.1 mem with mem | mem
    · exact hs.delimiters c mem
    · exact ht.delimiters c mem
  ampersands front behind cut := by
    rcases List.append_eq_append_iff.1 cut with ⟨rest, rfl, later⟩ | ⟨rest, rfl, sooner⟩
    · exact ht.ampersands rest behind later
    · cases rest with
      | nil => exact ht.ampersands [] behind sooner.symm
      | cons c rest =>
        -- the ampersand is in the first text, and so is the whole of its entity
        obtain ⟨rfl, rfl⟩ := List.cons_eq_cons.1 sooner
        obtain ⟨entity, known, begins⟩ := hs.ampersands front rest rfl
        exact ⟨entity, known, begins.trans (List.prefix_append ('&' :: rest) t)⟩

theorem entity?_eq_none {c : Char} (h : entity? c = none) : c ≠ '&' ∧ isDelimiter c = false := by
  unfold entity? at h
  split at h <;> simp_all [isDelimiter]

theorem mem_entities {c : Char} {entity : List Char} (h : entity? c = some entity) :
    entity ∈ entities := by
  unfold entity? at h
  split at h <;> cases h <;> simp [entities]

/-- An entity begins with its only ampersand. -/
theorem exists_of_mem_entities {entity : List Char} (h : entity ∈ entities) :
    ∃ name, entity = '&' :: name ∧ '&' ∉ name ∧ ∀ c ∈ entity, isDelimiter c = false := by
  simp only [entities, List.mem_cons, List.not_mem_nil, or_false] at h
  rcases h with rfl | rfl | rfl | rfl | rfl <;> exact ⟨_, rfl, by simp, by simp [isDelimiter]⟩

theorem inert_of_mem_entities {entity : List Char} (h : entity ∈ entities) : Inert entity := by
  obtain ⟨name, rfl, once, plain⟩ := exists_of_mem_entities h
  refine ⟨plain, ?_⟩
  intro front behind cut
  cases front with
  | nil =>
    rw [List.nil_append] at cut
    exact ⟨_, h, cut ▸ List.prefix_rfl⟩
  | cons c front =>
    obtain ⟨-, rfl⟩ := List.cons_eq_cons.1 cut
    simp at once

theorem Inert.singleton {c : Char} (ne : c ≠ '&') (plain : isDelimiter c = false) : Inert [c] where
  delimiters d mem := by rwa [List.mem_singleton.1 mem]
  ampersands front behind cut := by
    have mem : '&' ∈ [c] := cut ▸ List.mem_append_right front List.mem_cons_self
    exact absurd (List.mem_singleton.1 mem).symm ne

theorem inert_encodeChar (c : Char) : Inert (encodeChar c) := by
  unfold encodeChar
  cases h : entity? c with
  | some entity => exact inert_of_mem_entities (mem_entities h)
  | none =>
    obtain ⟨ne, plain⟩ := entity?_eq_none h
    exact .singleton ne plain

/-! ## Main result -/

theorem inert_encode (s : List Char) : Inert (encode s) := by
  induction s with
  | nil => exact .nil
  | cons c s ih => exact (inert_encodeChar c).append ih

/-! ## The converse -/

theorem Inert.drop {s : List Char} (h : Inert s) (n : Nat) : Inert (s.drop n) where
  delimiters c mem := h.delimiters c (List.mem_of_mem_drop mem)
  ampersands front behind cut :=
    h.ampersands (s.take n ++ front) behind
      (by rw [List.append_assoc, ← cut, List.take_append_drop])

theorem entity?_eq_none_of_ne {c : Char} (ne : c ≠ '&') (plain : isDelimiter c = false) :
    entity? c = none := by
  unfold entity?
  split <;> simp_all [isDelimiter]

/-- An inert text is what its reading is escaped to. -/
theorem encode_decode {s : List Char} (h : Inert s) : encode (decode s) = s := by
  fun_induction decode s with
  | case1 => rfl
  | case2 r ih => exact congrArg (['&', 'a', 'm', 'p', ';'] ++ ·) (ih (h.drop 5))
  | case3 r ih => exact congrArg (['&', 'l', 't', ';'] ++ ·) (ih (h.drop 4))
  | case4 r ih => exact congrArg (['&', 'g', 't', ';'] ++ ·) (ih (h.drop 4))
  | case5 r ih => exact congrArg (['&', 'q', 'u', 'o', 't', ';'] ++ ·) (ih (h.drop 6))
  | case6 r ih => exact congrArg (['&', '#', '3', '9', ';'] ++ ·) (ih (h.drop 5))
  | case7 c r amp lt gt quot apos ih =>
    -- an ampersand here would begin an entity, and entities are read as a whole
    have ne : c ≠ '&' := by
      rintro rfl
      obtain ⟨entity, known, behind, begins⟩ := h.ampersands [] r rfl
      simp only [entities, List.mem_cons, List.not_mem_nil, or_false] at known
      rcases known with rfl | rfl | rfl | rfl | rfl <;> cases begins
      · exact amp behind rfl rfl
      · exact lt behind rfl rfl
      · exact gt behind rfl rfl
      · exact quot behind rfl rfl
      · exact apos behind rfl rfl
    have plain := h.delimiters c List.mem_cons_self
    rw [encode_cons, encodeChar, entity?_eq_none_of_ne ne plain, ih (h.drop 1)]
    rfl

theorem unescape_escape (s : String) : unescape (escape s) = s := by
  simp [unescape, escape, decode_encode]

theorem escape_inj {s t : String} : escape s = escape t ↔ s = t := by
  refine ⟨fun same => ?_, congrArg escape⟩
  rw [← unescape_escape s, same, unescape_escape]

theorem inert_escape (s : String) : Inert (escape s).toList := by
  simpa [escape] using inert_encode s.toList

theorem inert_iff {s : String} : Inert s.toList ↔ escape (unescape s) = s := by
  constructor
  · intro plain
    simp [unescape, escape, encode_decode plain]
  · intro same
    rw [← same]
    exact inert_escape (unescape s)

/-- Escaping loses nothing and gives exactly the texts without markup: an escaped
text is inert and is read back, so that different texts stay different, and a text
is inert just if it is what its reading is escaped to. -/
theorem escape_lossless (s t : String) :
    Inert (escape s).toList ∧ unescape (escape s) = s ∧ (escape s = escape t ↔ s = t) ∧
      (Inert t.toList ↔ escape (unescape t) = t) :=
  ⟨inert_escape s, unescape_escape s, escape_inj, inert_iff⟩

example : escape "&lt;&" = "&amp;lt;&amp;" ∧ unescape "&amp;lt;&amp;" = "&lt;&" := by decide

end AdminPort.Text.Markup
