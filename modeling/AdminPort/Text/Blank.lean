/-!
# White space

The characters with the Unicode property `White_Space`, and the two things that
the rest of the library asks about them: whether a text holds one, and what is
left of a text once they are cut from both ends.

Results:
1. `not_isBlank_head_dropWhile`: a text whose blanks are cut from the front does not begin with one.
2. `trim_eq_iff`: what a text is trimmed to.
-/

namespace AdminPort.Text

/-- The Unicode property `White_Space`. -/
def isBlank (c : Char) : Bool :=
  let n := c.toNat
  (9 ≤ n && n ≤ 13) || n == 0x20 || n == 0x85 || n == 0xA0 || n == 0x1680 ||
    (0x2000 ≤ n && n ≤ 0x200A) || n == 0x2028 || n == 0x2029 || n == 0x202F ||
    n == 0x205F || n == 0x3000

/-- Blanks cut from both ends. -/
def trim (s : List Char) : List Char :=
  ((s.dropWhile isBlank).reverse.dropWhile isBlank).reverse

/-- A word is a text that is not empty and holds no blank. -/
def isWord (s : String) : Bool :=
  !s.isEmpty && s.toList.all (!isBlank ·)

theorem not_isBlank_head_dropWhile {s : List Char} {c : Char}
    (h : (s.dropWhile isBlank).head? = some c) : isBlank c = false := by
  induction s with
  | nil => simp at h
  | cons a s ih =>
    rw [List.dropWhile_cons] at h
    split at h
    · exact ih h
    · simp_all

/-- A text that does not begin with a blank loses nothing at its front. -/
theorem dropWhile_isBlank_eq_self {s : List Char}
    (front : ∀ c, s.head? = some c → isBlank c = false) : s.dropWhile isBlank = s := by
  cases s with
  | nil => rfl
  | cons c s => simp [front c rfl]

/-- What is cut from the back of a text is blank. -/
theorem exists_dropWhile_eq (s : List Char) :
    ∃ r, s.dropWhile isBlank = trim s ++ r ∧ ∀ c ∈ r, isBlank c = true := by
  refine ⟨((s.dropWhile isBlank).reverse.takeWhile isBlank).reverse, ?_, ?_⟩
  · rw [trim, ← List.reverse_append, List.takeWhile_append_dropWhile, List.reverse_reverse]
  · intro c mem
    exact List.all_eq_true.1 List.all_takeWhile c (List.mem_reverse.1 mem)

theorem trim_append {l w r : List Char} (left : ∀ c ∈ l, isBlank c = true)
    (right : ∀ c ∈ r, isBlank c = true) (front : ∀ c, w.head? = some c → isBlank c = false)
    (back : ∀ c, w.getLast? = some c → isBlank c = false) : trim (l ++ w ++ r) = w := by
  have cut : (r.reverse ++ w.reverse).dropWhile isBlank = w.reverse := by
    rw [List.dropWhile_append_of_pos fun c mem => right c (List.mem_reverse.1 mem)]
    refine dropWhile_isBlank_eq_self fun c head => back c ?_
    rwa [List.head?_reverse] at head
  rw [trim, List.append_assoc, List.dropWhile_append_of_pos left]
  cases w with
  | nil =>
    rw [List.nil_append, ← List.append_nil r, List.dropWhile_append_of_pos right]
    rfl
  | cons c w =>
    rw [dropWhile_isBlank_eq_self (s := c :: w ++ r) fun d head => front d head,
      List.reverse_append, cut, List.reverse_reverse]

/-- A text is trimmed to what neither begins nor ends with a blank and has nothing but
blanks around it. -/
theorem trim_eq_iff {s w : List Char} :
    trim s = w ↔
      (∃ l r, s = l ++ w ++ r ∧ (∀ c ∈ l, isBlank c = true) ∧ ∀ c ∈ r, isBlank c = true) ∧
        (∀ c, w.head? = some c → isBlank c = false) ∧
          ∀ c, w.getLast? = some c → isBlank c = false := by
  constructor
  · rintro rfl
    obtain ⟨r, cut, right⟩ := exists_dropWhile_eq s
    refine ⟨⟨s.takeWhile isBlank, r, ?_, ?_, right⟩, ?_, ?_⟩
    · rw [List.append_assoc, ← cut, List.takeWhile_append_dropWhile]
    · exact List.all_eq_true.1 List.all_takeWhile
    · intro c head
      refine not_isBlank_head_dropWhile (s := s) ?_
      rw [cut, List.head?_append, head]
      rfl
    · intro c last
      rw [trim, List.getLast?_reverse] at last
      exact not_isBlank_head_dropWhile last
  · rintro ⟨⟨l, r, rfl, left, right⟩, front, back⟩
    exact trim_append left right front back

end AdminPort.Text
