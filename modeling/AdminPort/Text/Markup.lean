/-!
# Text inside markup

Text from outside is written into a page with the five characters that have a
meaning in markup replaced by entities. `decode` reads the entities back.

Results:
1. `decode_encode`: nothing is lost.
-/

namespace AdminPort.Text.Markup

/-- The entity that stands for a character, if it may not be written itself. -/
def entity? (c : Char) : Option (List Char) :=
  match c with
  | '&' => some ['&', 'a', 'm', 'p', ';']
  | '<' => some ['&', 'l', 't', ';']
  | '>' => some ['&', 'g', 't', ';']
  | '"' => some ['&', 'q', 'u', 'o', 't', ';']
  | '\'' => some ['&', '#', '3', '9', ';']
  | _ => none

/-- One character as it is written in markup. -/
def encodeChar (c : Char) : List Char :=
  (entity? c).getD [c]

/-- A text as it is written in markup. -/
def encode (s : List Char) : List Char :=
  s.flatMap encodeChar

/-- Reads the five entities from left to right; any other character stands for itself. -/
def decode : List Char → List Char
  | [] => []
  | '&' :: 'a' :: 'm' :: 'p' :: ';' :: r => '&' :: decode r
  | '&' :: 'l' :: 't' :: ';' :: r => '<' :: decode r
  | '&' :: 'g' :: 't' :: ';' :: r => '>' :: decode r
  | '&' :: 'q' :: 'u' :: 'o' :: 't' :: ';' :: r => '"' :: decode r
  | '&' :: '#' :: '3' :: '9' :: ';' :: r => '\'' :: decode r
  | c :: r => c :: decode r

/-- `encode` on strings. -/
def escape (s : String) : String :=
  String.ofList (encode s.toList)

@[simp]
theorem encode_cons (c : Char) (s : List Char) : encode (c :: s) = encodeChar c ++ encode s := rfl

theorem decode_encode (s : List Char) : decode (encode s) = s := by
  induction s with
  | nil => rfl
  | cons c s ih =>
    rw [encode_cons]
    unfold encodeChar entity?
    split <;> simp_all [decode]

end AdminPort.Text.Markup
