import AdminPort.Config.Load
import AdminPort.Proofs.Spelling
import Mathlib.Data.List.Perm.Basic

/-!
# Which documents are configurations

A document is taken here as a tree of scalars, sequences and mappings, without its
places in the text. Of a scalar it matters what it says and whether it is plain, for
a plain one may stand for an integer, for a null or for nothing at all.

The two layers of the rules are kept apart. A document describes a configuration
(`Describes`) if its mappings have the right keys, none of them twice, and its values
are of the right kind; each field is then the value that is given or its default. The
configuration holds (`Holds`) if its fields are in range. A text is loaded exactly if
both are the case, so neither the order of the keys nor anything else about the
document makes a difference.

Results:
1. `readFields_eq_ok_iff`: fields are read exactly if they are fields, and one by one.
2. `readServer_eq_ok_iff`, `readStats_eq_ok_iff`, `readRoot_eq_ok_iff`: the sections.
3. `check_eq_ok_iff`: a configuration passes exactly if it holds.
4. `interchangeable_of_reordered`: the order of entries makes no difference.
5. `accepted_iff_described`: a text is loaded exactly if its document describes a
   configuration that holds.
-/

namespace AdminPort

namespace Yaml

/-! ## Trees -/

/-- A document without tags and aliases, and without its places in the text. -/
inductive Tree where
  | scalar (text : String) (isPlain : Bool)
  | sequence (items : List Tree)
  | mapping (entries : List (Tree × Tree))

/-- The text of a scalar. -/
def Tree.text? : Tree → Option String
  | scalar text _ => some text
  | _ => none

/-- The entries of a mapping. A plain scalar without text has none. -/
def Tree.entries? : Tree → Option (List (Tree × Tree))
  | scalar text isPlain => if text = "" ∧ isPlain = true then some [] else none
  | sequence _ => none
  | mapping entries => some entries

mutual

/-- The tree of a node, if there are no tags and no aliases in it. -/
def Node.tree? : Node → Option Tree
  | .scalar s _ => if s.tag = none then some (.scalar s.text (s.style == .plain)) else none
  | .sequence items _ => (Node.trees? items).map .sequence
  | .mapping entries _ => (Node.pairs? entries).map .mapping
  | _ => none

/-- The trees of nodes. -/
def Node.trees? : List Node → Option (List Tree)
  | [] => some []
  | node :: rest => do return (← node.tree?) :: (← Node.trees? rest)

/-- The trees of entries. -/
def Node.pairs? : List (Node × Node) → Option (List (Tree × Tree))
  | [] => some []
  | (key, value) :: rest => do
    return (← key.tree?, ← value.tree?) :: (← Node.pairs? rest)

end

/-- `IsDocument text tree`: the text is one document from beginning to end, and the
document is the tree. -/
structure IsDocument (text : String) (tree : Tree) : Prop where
  whole : (Document.ofText text).brokenOff = none
  single : (Document.ofText text).behind = none
  tree : (Document.ofText text).root.tree? = some tree

/-- `Reordered tree tree'`: the trees differ in the order of entries, in any mappings.

* `perm`: in the outermost mapping.
* `within`: in the value of its first entry, and so, with the others, of any entry. -/
inductive Reordered : Tree → Tree → Prop
  | refl (tree : Tree) : Reordered tree tree
  | perm {entries entries' : List (Tree × Tree)} : entries.Perm entries' →
      Reordered (.mapping entries) (.mapping entries')
  | within {key value value' : Tree} {rest : List (Tree × Tree)} : Reordered value value' →
      Reordered (.mapping ((key, value) :: rest)) (.mapping ((key, value') :: rest))
  | trans {a b c : Tree} : Reordered a b → Reordered b c → Reordered a c

end Yaml

namespace Config

open Yaml

/-! ## Configurations in documents -/

/-- `Fields known entries fields`: the entries of a mapping are fields, which have their
names from a list, and none of them is given twice. -/
structure Fields (known : List String) (entries : List (Tree × Tree))
    (fields : List (String × Tree)) : Prop where
  keys : entries.map (fun entry => (entry.1.text?, entry.2)) =
    fields.map fun field => (some field.1, field.2)
  known : ∀ field ∈ fields, field.1 ∈ known
  distinct : (fields.map (·.1)).Nodup

/-- `HasField fields name Fits default a`: what is given under a name fits `a`, or nothing is
given and `a` is the default. -/
def HasField {α : Type} (fields : List (String × Tree)) (name : String) (Fits : Tree → α → Prop)
    (default a : α) : Prop :=
  match fields.lookup name with
  | some value => Fits value a
  | none => a = default

/-- Any scalar is a text. -/
def IsText (value : Tree) (s : String) : Prop := value.text? = some s

/-- An integer is a plain scalar that is spelled as one. -/
def IsInteger (value : Tree) (n : Nat) : Prop :=
  ∃ text, value = .scalar text true ∧ SpellsInteger text.toList n

/-- A null is a plain scalar that is spelled as one or empty. -/
def IsNull (value : Tree) : Prop :=
  ∃ text, value = .scalar text true ∧ text ∈ ["", "~", "null", "Null", "NULL"]

/-- A text that may be null. -/
def IsOptionalText (value : Tree) (s : Option String) : Prop :=
  IsNull value ∧ s = none ∨ ¬ IsNull value ∧ ∃ text, IsText value text ∧ s = some text

/-- `DescribesServer value s`: a value describes the section about serving. -/
def DescribesServer (value : Tree) (s : ServerSection) : Prop :=
  ∃ entries fields, value.entries? = some entries ∧
    Fields ["listen", "shutdown_grace_ms"] entries fields ∧
    HasField fields "listen" IsText "0.0.0.0:4242" s.listen ∧
    HasField fields "shutdown_grace_ms" IsInteger 5000 s.graceMillis

/-- `DescribesStats value s`: a value describes the section about statistics. -/
def DescribesStats (value : Tree) (s : StatsSection) : Prop :=
  ∃ entries fields, value.entries? = some entries ∧
    Fields ["prefix", "host"] entries fields ∧
    HasField fields "prefix" IsText "tsd" s.base ∧
    HasField fields "host" IsOptionalText none s.host

/-- `Describes root c`: a document describes a configuration. Only the version has to be
given. -/
def Describes (root : Tree) (c : Config) : Prop :=
  ∃ entries fields, root.entries? = some entries ∧
    Fields ["version", "server", "stats"] entries fields ∧
    (∃ value, fields.lookup "version" = some value ∧ IsInteger value c.version) ∧
    HasField fields "server" DescribesServer {} c.server ∧
    HasField fields "stats" DescribesStats {} c.stats

/-- `Holds c`: the fields of a configuration are in range. -/
structure Holds (c : Config) : Prop where
  version : c.version = 1
  listen : ∃ address, Address.ofString? c.server.listen = some address
  grace : 100 ≤ c.server.graceMillis ∧ c.server.graceMillis ≤ 60000
  base : Text.isWord c.stats.base = true
  host : ∀ host, c.stats.host = some host → Text.isWord host = true

end Config

/-! ## Reading nodes -/

namespace AcceptanceLemmas

open Yaml Config Config.Schema

theorem bind_eq_ok_iff {ε α β : Type} {x : Except ε α} {f : α → Except ε β} {b : β} :
    (x >>= f) = .ok b ↔ ∃ a, x = .ok a ∧ f a = .ok b := by
  cases x <;> simp [bind, Except.bind]

/-- What is read is taken into what was read before. -/
theorem take_eq_ok_iff {ε α β : Type} {x : Except ε α} {f : α → β} {P : α → Prop} {b : β}
    (reads : ∀ a, x = .ok a ↔ P a) : (do return f (← x)) = .ok b ↔ ∃ a, P a ∧ b = f a := by
  rw [bind_eq_ok_iff]
  refine exists_congr fun a => and_congr (reads a) ?_
  exact ⟨fun same => (Except.ok.inj same).symm, fun same => same ▸ rfl⟩

section

variable {d : Document} {path : List PathStep} {expected : String} {node : Node} {tree : Tree}

theorem tree?_scalar {s : Scalar} {mark : Mark} (h : (Node.scalar s mark).tree? = some tree) :
    s.tag = none ∧ tree = .scalar s.text (s.style == .plain) := by
  rw [Node.tree?] at h
  split_ifs at h with untagged
  exact ⟨untagged, (Option.some.inj h).symm⟩

/-- Where a scalar is expected, nothing else will do. -/
theorem readScalar_eq_ok_iff {α : Type} {read : Scalar → Mark → Reading α} {a : α}
    (h : node.tree? = some tree) :
    readScalar d expected path node read = .ok a ↔
      ∃ s mark, node = .scalar s mark ∧ s.tag = none ∧
        tree = .scalar s.text (s.style == .plain) ∧ read s mark = .ok a := by
  rw [readScalar]
  cases node with
  | scalar s mark =>
    obtain ⟨untagged, rfl⟩ := tree?_scalar h
    constructor
    · exact fun took => ⟨s, mark, rfl, untagged, rfl, took⟩
    · rintro ⟨_, _, ⟨⟩, -, -, took⟩
      exact took
  | sequence | mapping => simp [Document.follow, mismatch]
  | _ => simp [Node.tree?] at h

/-- What a scalar says and whether it is plain decides how it is read. -/
theorem readScalar_of_tree {α : Type} {read : Scalar → Mark → Reading α} {a : α}
    {F : Tree → α → Prop} (h : node.tree? = some tree)
    (reads : ∀ s mark, s.tag = none →
      (read s mark = .ok a ↔ F (.scalar s.text (s.style == .plain)) a))
    (scalar : F tree a → ∃ text isPlain, tree = .scalar text isPlain) :
    readScalar d expected path node read = .ok a ↔ F tree a := by
  rw [readScalar_eq_ok_iff h]
  constructor
  · rintro ⟨s, mark, rfl, untagged, rfl, took⟩
    exact (reads s mark untagged).1 took
  · intro fits
    obtain ⟨text, isPlain, rfl⟩ := scalar fits
    cases node with
    | scalar s mark =>
      obtain ⟨untagged, same⟩ := tree?_scalar h
      exact ⟨s, mark, rfl, untagged, same, (reads s mark untagged).2 (same ▸ fits)⟩
    | sequence | mapping => simp [Node.tree?] at h
    | _ => simp [Node.tree?] at h

theorem readText_eq_ok_iff {s : String} (h : node.tree? = some tree) :
    readText d path node = .ok s ↔ IsText tree s := by
  refine readScalar_of_tree h ?_ ?_
  · intro scalar mark _
    simp [IsText, Tree.text?]
  · intro isText
    cases tree with
    | scalar text isPlain => exact ⟨text, isPlain, rfl⟩
    | _ => cases isText

theorem isInteger_scalar_iff {text : String} {isPlain : Bool} {n : Nat} :
    IsInteger (.scalar text isPlain) n ↔ isPlain = true ∧ SpellsInteger text.toList n := by
  constructor
  · rintro ⟨_, ⟨⟩, spelled⟩
    exact ⟨rfl, spelled⟩
  · rintro ⟨rfl, spelled⟩
    exact ⟨text, rfl, spelled⟩

theorem isNull_scalar_iff {text : String} {isPlain : Bool} :
    IsNull (.scalar text isPlain) ↔ isPlain = true ∧ (text = "" ∨ isNullWord text = true) := by
  constructor
  · rintro ⟨_, ⟨⟩, word⟩
    refine ⟨rfl, ?_⟩
    simp only [List.mem_cons, List.not_mem_nil, or_false] at word
    rcases word with rfl | rfl | rfl | rfl | rfl <;> decide
  · rintro ⟨rfl, word⟩
    refine ⟨text, rfl, ?_⟩
    simp only [isNullWord, List.contains_iff_mem, List.mem_cons, List.not_mem_nil, or_false]
      at word ⊢
    tauto

theorem readInteger_eq_ok_iff {bound n : Nat} (small : bound ≤ UInt64.size)
    (h : node.tree? = some tree) :
    readInteger d bound expected path node = .ok n ↔ IsInteger tree n ∧ n < bound := by
  refine readScalar_of_tree (F := fun tree n => IsInteger tree n ∧ n < bound) h ?_ ?_
  · intro s mark untagged
    have may : mayBeInteger s = (s.style == .plain) := by simp [mayBeInteger, untagged]
    rw [isInteger_scalar_iff, may]
    by_cases plain : (s.style == .plain) = true
    · have read : unsigned? UInt64.size s.text.toList = some n ∧ n < bound ↔
          SpellsInteger s.text.toList n ∧ n < bound := by
        rw [unsigned?_eq_some_iff, and_assoc]
        exact and_congr_right fun _ => ⟨And.right, fun below => ⟨by omega, below⟩⟩
      simp only [plain, if_true, true_and, ← read]
      cases unsigned? UInt64.size s.text.toList with
      | none => simp [mismatch]
      | some m =>
        by_cases below : m < bound
        · simp only [below, if_true, Except.ok.injEq, Option.some.injEq]
          exact ⟨fun same => ⟨same, same ▸ below⟩, And.left⟩
        · simp only [below, if_false, mismatch, Option.some.injEq, reduceCtorEq, false_iff]
          rintro ⟨rfl, other⟩
          exact below other
    · simp [plain, mismatch]
  · rintro ⟨⟨text, rfl, -⟩, -⟩
    exact ⟨text, true, rfl⟩

theorem isOptionalText_scalar_iff {text : String} {isPlain : Bool} {s : Option String} :
    IsOptionalText (.scalar text isPlain) s ↔
      (if isPlain = true ∧ (text = "" ∨ isNullWord text = true) then none else some text) = s := by
  simp only [IsOptionalText, isNull_scalar_iff, IsText, Tree.text?]
  split_ifs with null
  · constructor
    · rintro (⟨-, rfl⟩ | ⟨other, -⟩)
      · rfl
      · exact absurd null other
    · exact fun same => .inl ⟨null, same.symm⟩
  · constructor
    · rintro (⟨other, -⟩ | ⟨-, _, ⟨⟩, rfl⟩)
      · exact absurd other null
      · rfl
    · exact fun same => .inr ⟨null, text, rfl, same.symm⟩

theorem readOptionalText_eq_ok_iff {outer : Place} {s : Option String}
    (h : node.tree? = some tree) :
    readOptionalText d path outer node = .ok s ↔ IsOptionalText tree s := by
  refine readScalar_of_tree h ?_ ?_
  · intro scalar mark untagged
    rw [isOptionalText_scalar_iff]
    by_cases plain : scalar.style = .plain
    · simp [plain, untagged, Scalar.isBlank]
    · simp [plain]
  · rintro (⟨⟨text, rfl, -⟩, -⟩ | ⟨-, text, isText, -⟩)
    · exact ⟨text, true, rfl⟩
    · cases tree with
      | scalar text isPlain => exact ⟨text, isPlain, rfl⟩
      | _ => cases isText

theorem readKey_eq_ok_iff {known : List String} {key : String × PathStep}
    (h : node.tree? = some tree) :
    readKey d known path node = .ok key ↔
      ∃ name, tree.text? = some name ∧ name ∈ known ∧ key = (name, .key name) := by
  rw [readKey, readScalar_eq_ok_iff h]
  constructor
  · rintro ⟨s, mark, rfl, -, rfl, took⟩
    split_ifs at took with isKnown
    · exact ⟨s.text, rfl, by simpa using isKnown, (Except.ok.inj took).symm⟩
    · cases took
  · rintro ⟨name, isName, isKnown, rfl⟩
    cases node with
    | scalar s mark =>
      obtain ⟨untagged, rfl⟩ := tree?_scalar h
      cases isName
      exact ⟨s, mark, rfl, untagged, rfl, by simp [isKnown]⟩
    | sequence | mapping =>
      obtain ⟨_, -, rfl⟩ := Option.map_eq_some_iff.1 h
      cases isName
    | _ => cases h

/-- What is read from a mapping goes by its entries. -/
theorem bind_readMapping_eq_ok_iff {α : Type} {a : α}
    {next : List (Node × Node) × Place → Reading α} {P : List (Tree × Tree) → Prop}
    (h : node.tree? = some tree)
    (onward : ∀ entries trees place, Node.pairs? entries = some trees →
      (next (entries, place) = .ok a ↔ P trees)) :
    (readMapping d expected path node >>= next) = .ok a ↔
      ∃ trees, tree.entries? = some trees ∧ P trees := by
  rw [readMapping]
  cases node with
  | scalar s mark =>
    obtain ⟨-, rfl⟩ := tree?_scalar h
    by_cases blank : s.text = "" ∧ s.style = .plain
    · simp [Document.follow, Scalar.isBlank, Tree.entries?, blank, bind, Except.bind,
        onward [] [] _ rfl]
    · have notBlank : s.isBlank = false := by
        rw [Bool.eq_false_iff]
        intro isBlank
        obtain ⟨plain, empty⟩ : s.style = .plain ∧ s.text = "" := by
          simpa [Scalar.isBlank] using isBlank
        exact blank ⟨empty, plain⟩
      simp [Document.follow, Tree.entries?, blank, notBlank, bind, Except.bind, mismatch]
  | sequence items mark =>
    obtain ⟨trees, -, rfl⟩ := Option.map_eq_some_iff.1 h
    simp [Document.follow, Tree.entries?, bind, Except.bind, mismatch]
  | mapping entries mark =>
    obtain ⟨trees, pairs, rfl⟩ := Option.map_eq_some_iff.1 h
    simp [Document.follow, Tree.entries?, bind, Except.bind, onward entries trees _ pairs]
  | _ => cases h

end

/-! ## Fields one by one -/

/-- Values taken in one after the other, each under its name. -/
inductive Fills {α : Type} (Reads : α → String → Tree → α → Prop) :
    α → List (String × Tree) → α → Prop
  | nil {a : α} : Fills Reads a [] a
  | cons {a b c : α} {name : String} {value : Tree} {rest : List (String × Tree)} :
      Reads a name value b → Fills Reads b rest c → Fills Reads a ((name, value) :: rest) c

theorem fills_nil_iff {α : Type} {Reads : α → String → Tree → α → Prop} {a b : α} :
    Fills Reads a [] b ↔ b = a := by
  constructor
  · rintro ⟨⟩
    rfl
  · rintro rfl
    exact .nil

theorem fills_cons_iff {α : Type} {Reads : α → String → Tree → α → Prop} {a c : α}
    {name : String} {value : Tree} {rest : List (String × Tree)} :
    Fills Reads a ((name, value) :: rest) c ↔
      ∃ b, Reads a name value b ∧ Fills Reads b rest c := by
  constructor
  · rintro (_ | ⟨first, later⟩)
    exact ⟨_, first, later⟩
  · rintro ⟨b, first, later⟩
    exact .cons first later

section

variable {known : List String} {entries : List (Tree × Tree)} {fields : List (String × Tree)}

theorem fields_nil_iff : Fields known [] fields ↔ fields = [] := by
  constructor
  · intro h
    simpa using h.keys.symm
  · rintro rfl
    exact ⟨rfl, by simp, List.nodup_nil⟩

theorem fields_cons_iff {key value : Tree} :
    Fields known ((key, value) :: entries) fields ↔
      ∃ name rest, fields = (name, value) :: rest ∧ key.text? = some name ∧ name ∈ known ∧
        name ∉ rest.map (·.1) ∧ Fields known entries rest := by
  constructor
  · rintro ⟨keys, isKnown, distinct⟩
    cases fields with
    | nil => cases keys
    | cons field rest =>
      obtain ⟨same, restKeys⟩ := List.cons.inj keys
      obtain ⟨isName, rfl⟩ := Prod.mk.inj same
      obtain ⟨firstKnown, isKnown⟩ := List.forall_mem_cons.1 isKnown
      obtain ⟨new, distinct⟩ := List.nodup_cons.1 distinct
      exact ⟨field.1, rest, rfl, isName, firstKnown, new, restKeys, isKnown, distinct⟩
  · rintro ⟨name, rest, rfl, isName, firstKnown, new, keys, isKnown, distinct⟩
    refine ⟨?_, List.forall_mem_cons.2 ⟨firstKnown, isKnown⟩, List.nodup_cons.2 ⟨new, distinct⟩⟩
    rw [List.map_cons, List.map_cons, isName, keys]

end

/-- Fields are read exactly if they are fields, none of them seen before, and their values
are taken in one after the other. -/
theorem readFields_eq_ok_iff {α : Type} {d : Document} {known : List String} {place : Place}
    {read : α → String → List PathStep → Node → Reading α}
    {Reads : α → String → Tree → α → Prop}
    (reads : ∀ a name path node tree b, node.tree? = some tree →
      (read a name path node = .ok b ↔ Reads a name tree b))
    {entries : List (Node × Node)} {trees : List (Tree × Tree)}
    (h : Node.pairs? entries = some trees) (seen : List String) (a b : α) :
    readFields d known place read seen entries a = .ok b ↔
      ∃ fields, Fields known trees fields ∧ (∀ field ∈ fields, field.1 ∉ seen) ∧
        Fills Reads a fields b := by
  induction entries generalizing trees seen a with
  | nil =>
    cases h
    simp [readFields, fields_nil_iff, fills_nil_iff, eq_comm]
  | cons entry rest ih =>
    obtain ⟨key, value⟩ := entry
    simp only [Node.pairs?, Option.bind_eq_bind, Option.bind_eq_some_iff, Option.pure_def,
      Option.some.injEq] at h
    obtain ⟨keyTree, isKey, valueTree, isValue, trees, isRest, rfl⟩ := h
    rw [readFields, bind_eq_ok_iff]
    simp only [fields_cons_iff, readKey_eq_ok_iff isKey]
    constructor
    · rintro ⟨_, ⟨name, isName, isKnown, rfl⟩, took⟩
      dsimp only at took
      split_ifs at took with again
      · cases took
      · obtain ⟨mid, first, later⟩ := bind_eq_ok_iff.1 took
        obtain ⟨fields, areFields, unseen, fills⟩ := (ih isRest _ _).1 later
        refine ⟨(name, valueTree) :: fields, ⟨name, fields, rfl, isName, isKnown, ?_, areFields⟩,
          ?_, ?_⟩
        · intro twice
          obtain ⟨field, mem, same⟩ := List.mem_map.1 twice
          exact unseen field mem (same ▸ List.mem_cons_self)
        · rw [List.forall_mem_cons]
          refine ⟨by simpa using again, fun field mem before => ?_⟩
          exact unseen field mem (List.mem_cons_of_mem _ before)
        · exact .cons ((reads _ _ _ _ _ _ isValue).1 first) fills
    · rintro ⟨_, ⟨name, fields, rfl, isName, isKnown, new, areFields⟩, unseen, fills⟩
      obtain ⟨mid, first, later⟩ := fills_cons_iff.1 fills
      obtain ⟨nameUnseen, unseen⟩ := List.forall_mem_cons.1 unseen
      refine ⟨_, ⟨name, isName, isKnown, rfl⟩, ?_⟩
      dsimp only
      rw [if_neg (by simpa using nameUnseen), bind_eq_ok_iff]
      refine ⟨mid, (reads _ _ _ _ _ _ isValue).2 first, (ih isRest _ _).2 ?_⟩
      refine ⟨fields, areFields, fun field mem => ?_, later⟩
      rw [List.mem_cons]
      rintro (same | before)
      · exact new (List.mem_map.2 ⟨field, mem, same⟩)
      · exact unseen field mem before

/-! ## Fields under their names -/

section

variable {α : Type} {Fits : Tree → α → Prop} {name : String} {default a : α} {value : Tree}
  {rest : List (String × Tree)}

theorem field_nil_iff : HasField [] name Fits default a ↔ a = default := Iff.rfl

theorem field_cons_self_iff :
    HasField ((name, value) :: rest) name Fits default a ↔ Fits value a := by
  rw [HasField, List.lookup_cons_self]

theorem field_cons_of_ne {other : String} (h : name ≠ other) :
    HasField ((other, value) :: rest) name Fits default a ↔ HasField rest name Fits default a := by
  have differ : (name == other) = false := by simpa using h
  simp only [HasField, List.lookup_cons, differ]

theorem field_of_notMem (h : name ∉ rest.map (·.1)) :
    HasField rest name Fits default a ↔ a = default := by
  have none : rest.lookup name = none := by
    rw [List.lookup_eq_none_iff]
    intro field mem
    simpa using fun same => h (List.mem_map.2 ⟨field, mem, same.symm⟩)
  rw [HasField, none]

/-- Only the value that a field takes in the end is compared. -/
theorem field_congr {fields : List (String × Tree)} {Fits' : Tree → α → Prop}
    (h : ∀ value, Fits value a ↔ Fits' value a) :
    HasField fields name Fits default a ↔ HasField fields name Fits' default a := by
  rw [HasField, HasField]
  cases fields.lookup name with
  | none => rfl
  | some value => exact h value

end

/-! ## Sections -/

/-- An integer that a reader with a bound takes. -/
def IsIntegerBelow (bound : Nat) (value : Tree) (n : Nat) : Prop := IsInteger value n ∧ n < bound

/-- A field whose value is taken in is not given again. -/
theorem fills_cons_of_set {α β : Type} {Reads : α → String → Tree → α → Prop}
    {Fits : Tree → β → Prop} {set : β → α} {a c : α} {name : String} {value : Tree}
    {rest : List (String × Tree)}
    (reads : ∀ b, Reads a name value b ↔ ∃ x, Fits value x ∧ b = set x) :
    Fills Reads a ((name, value) :: rest) c ↔
      ∃ x, Fits value x ∧ Fills Reads (set x) rest c := by
  rw [fills_cons_iff]
  constructor
  · rintro ⟨b, first, later⟩
    obtain ⟨x, fits, rfl⟩ := (reads b).1 first
    exact ⟨x, fits, later⟩
  · rintro ⟨x, fits, later⟩
    exact ⟨_, (reads _).2 ⟨x, fits, rfl⟩, later⟩

/-- A section is read exactly if it is a mapping whose entries are fields, which are taken in
one after the other. -/
theorem readSection_eq_ok_iff {α : Type} {d : Document} {known : List String} {expected : String}
    {path : List PathStep} {node : Node} {tree : Tree}
    {read : Place → α → String → List PathStep → Node → Reading α}
    {next : List (Node × Node) × Place → Reading α} {a b : α} {P : List (String × Tree) → Prop}
    (Reads : α → String → Tree → α → Prop)
    (h : node.tree? = some tree)
    (onward : ∀ entries place,
      next (entries, place) = readFields d known place (read place) [] entries a)
    (reads : ∀ place a name path node tree b, node.tree? = some tree →
      (read place a name path node = .ok b ↔ Reads a name tree b))
    (fills : ∀ fields, (∀ field ∈ fields, field.1 ∈ known) → (fields.map (·.1)).Nodup →
      (Fills Reads a fields b ↔ P fields)) :
    (readMapping d expected path node >>= next) = .ok b ↔
      ∃ entries fields, tree.entries? = some entries ∧ Fields known entries fields ∧ P fields := by
  refine (bind_readMapping_eq_ok_iff (P := fun entries => ∃ fields,
    Fields known entries fields ∧ Fills Reads a fields b) h ?_).trans ?_
  · intro entries trees place pairs
    rw [onward, readFields_eq_ok_iff (reads place) pairs]
    simp
  · refine exists_congr fun entries => ?_
    rw [← exists_and_left]
    refine exists_congr fun fields => and_congr_right fun _ => and_congr_right fun areFields => ?_
    exact fills fields areFields.known areFields.distinct

/-- In a section of two fields, what is taken in are the values of both. -/
theorem fills_pair_iff {α β σ : Type} {first second : String} {FitsFirst : Tree → α → Prop}
    {FitsSecond : Tree → β → Prop} {Reads : σ → String → Tree → σ → Prop} (make : α → β → σ)
    (make_inj : ∀ {a b a' b'}, make a b = make a' b' ↔ a = a' ∧ b = b')
    (differ : first ≠ second)
    (atFirst : ∀ a b value s, Reads (make a b) first value s ↔
      ∃ x, FitsFirst value x ∧ s = make x b)
    (atSecond : ∀ a b value s, Reads (make a b) second value s ↔
      ∃ x, FitsSecond value x ∧ s = make a x)
    {fields : List (String × Tree)} (known : ∀ field ∈ fields, field.1 ∈ [first, second])
    (distinct : (fields.map (·.1)).Nodup) (a a' : α) (b b' : β) :
    Fills Reads (make a b) fields (make a' b') ↔
      HasField fields first FitsFirst a a' ∧ HasField fields second FitsSecond b b' := by
  induction fields generalizing a b with
  | nil => rw [fills_nil_iff, make_inj, field_nil_iff, field_nil_iff]
  | cons field rest ih =>
    obtain ⟨name, value⟩ := field
    obtain ⟨isKnown, restKnown⟩ := List.forall_mem_cons.1 known
    obtain ⟨new, restDistinct⟩ := List.nodup_cons.1 distinct
    simp only [List.mem_cons, List.not_mem_nil, or_false] at isKnown
    rcases isKnown with rfl | rfl
    · rw [fills_cons_of_set (atFirst a b value), field_cons_self_iff,
        field_cons_of_ne differ.symm]
      simp [ih restKnown restDistinct, field_of_notMem new]
    · rw [fills_cons_of_set (atSecond a b value), field_cons_self_iff,
        field_cons_of_ne differ]
      simp [ih restKnown restDistinct, field_of_notMem new, and_comm]

/-- How a field of the section about serving is taken in. -/
def ReadsServer (s : ServerSection) (name : String) (value : Tree) (s' : ServerSection) : Prop :=
  if name = "listen" then ∃ listen, IsText value listen ∧ s' = { s with listen }
  else ∃ graceMillis, IsIntegerBelow UInt64.size value graceMillis ∧ s' = { s with graceMillis }

/-- `ReadableServer value s`: a value describes the section about serving, in integers that
a reader takes. -/
def ReadableServer (value : Tree) (s : ServerSection) : Prop :=
  ∃ entries fields, value.entries? = some entries ∧
    Fields ["listen", "shutdown_grace_ms"] entries fields ∧
    HasField fields "listen" IsText "0.0.0.0:4242" s.listen ∧
    HasField fields "shutdown_grace_ms" (IsIntegerBelow UInt64.size) 5000 s.graceMillis

theorem readServer_eq_ok_iff {d : Document} {path : List PathStep} {node : Node} {tree : Tree}
    {s : ServerSection} (h : node.tree? = some tree) :
    readServer d path node = .ok s ↔ ReadableServer tree s := by
  rw [readServer]
  refine readSection_eq_ok_iff ReadsServer h (fun _ _ => rfl) ?_ ?_
  · intro place a name path node tree b isTree
    rw [ReadsServer]
    split_ifs with listen
    · exact take_eq_ok_iff fun _ => readText_eq_ok_iff isTree
    · exact take_eq_ok_iff fun _ => readInteger_eq_ok_iff (Nat.le_refl _) isTree
  · intro fields known distinct
    refine fills_pair_iff ServerSection.mk ?_ (by decide) ?_ ?_ known distinct _ _ _ _
    · simp
    · intros
      rw [ReadsServer, if_pos rfl]
    · intros
      rw [ReadsServer, if_neg (by decide)]

/-- How a field of the section about statistics is taken in. -/
def ReadsStats (s : StatsSection) (name : String) (value : Tree) (s' : StatsSection) : Prop :=
  if name = "prefix" then ∃ base, IsText value base ∧ s' = { s with base }
  else ∃ host, IsOptionalText value host ∧ s' = { s with host }

theorem readStats_eq_ok_iff {d : Document} {path : List PathStep} {node : Node} {tree : Tree}
    {s : StatsSection} (h : node.tree? = some tree) :
    readStats d path node = .ok s ↔ DescribesStats tree s := by
  rw [readStats]
  refine readSection_eq_ok_iff ReadsStats h (fun _ _ => rfl) ?_ ?_
  · intro place a name path node tree b isTree
    rw [ReadsStats]
    split_ifs with base
    · exact take_eq_ok_iff fun _ => readText_eq_ok_iff isTree
    · exact take_eq_ok_iff fun _ => readOptionalText_eq_ok_iff isTree
  · intro fields known distinct
    refine fills_pair_iff StatsSection.mk ?_ (by decide) ?_ ?_ known distinct _ _ _ _
    · simp
    · intros
      rw [ReadsStats, if_pos rfl]
    · intros
      rw [ReadsStats, if_neg (by decide)]

/-- How a section of a configuration is taken in. -/
def ReadsRoot (draft : Draft) (name : String) (value : Tree) (draft' : Draft) : Prop :=
  if name = "version" then
    ∃ version, IsIntegerBelow UInt32.size value version ∧
      draft' = { draft with version := some version }
  else if name = "server" then
    ∃ server, ReadableServer value server ∧ draft' = { draft with server }
  else ∃ stats, DescribesStats value stats ∧ draft' = { draft with stats }

theorem fills_root_iff {fields : List (String × Tree)} {draft draft' : Draft}
    (known : ∀ field ∈ fields, field.1 ∈ ["version", "server", "stats"])
    (distinct : (fields.map (·.1)).Nodup) :
    Fills ReadsRoot draft fields draft' ↔
      HasField fields "version" (fun value version => ∃ n, IsIntegerBelow UInt32.size value n ∧
          version = some n) draft.version draft'.version ∧
        HasField fields "server" ReadableServer draft.server draft'.server ∧
        HasField fields "stats" DescribesStats draft.stats draft'.stats := by
  induction fields generalizing draft with
  | nil =>
    obtain ⟨version, server, stats⟩ := draft
    obtain ⟨version', server', stats'⟩ := draft'
    simp [fills_nil_iff, field_nil_iff]
  | cons field rest ih =>
    obtain ⟨name, value⟩ := field
    obtain ⟨isKnown, restKnown⟩ := List.forall_mem_cons.1 known
    obtain ⟨new, restDistinct⟩ := List.nodup_cons.1 distinct
    simp only [List.mem_cons, List.not_mem_nil, or_false] at isKnown
    rcases isKnown with rfl | rfl | rfl
    · rw [fills_cons_of_set fun _ => by rw [ReadsRoot, if_pos rfl], field_cons_self_iff,
        field_cons_of_ne (by decide), field_cons_of_ne (by decide)]
      simp only [ih restKnown restDistinct, field_of_notMem new]
      constructor
      · rintro ⟨n, fits, version, others⟩
        exact ⟨⟨n, fits, version⟩, others⟩
      · rintro ⟨⟨n, fits, version⟩, others⟩
        exact ⟨n, fits, version, others⟩
    · rw [fills_cons_of_set fun _ => by rw [ReadsRoot, if_neg (by decide), if_pos rfl],
        field_cons_self_iff, field_cons_of_ne (by decide), field_cons_of_ne (by decide)]
      simp only [ih restKnown restDistinct, field_of_notMem new]
      constructor
      · rintro ⟨_, fits, version, rfl, stats⟩
        exact ⟨version, fits, stats⟩
      · rintro ⟨version, fits, stats⟩
        exact ⟨_, fits, version, rfl, stats⟩
    · rw [fills_cons_of_set fun _ => by rw [ReadsRoot, if_neg (by decide), if_neg (by decide)],
        field_cons_self_iff, field_cons_of_ne (by decide), field_cons_of_ne (by decide)]
      simp only [ih restKnown restDistinct, field_of_notMem new]
      constructor
      · rintro ⟨_, fits, version, server, rfl⟩
        exact ⟨version, server, fits⟩
      · rintro ⟨version, server, fits⟩
        exact ⟨_, fits, version, server, rfl⟩

/-- `ReadableRoot root c`: a document describes a configuration, in integers that a reader
takes. -/
def ReadableRoot (root : Tree) (c : Config) : Prop :=
  ∃ entries fields, root.entries? = some entries ∧
    Fields ["version", "server", "stats"] entries fields ∧
    (∃ value, fields.lookup "version" = some value ∧
      IsIntegerBelow UInt32.size value c.version) ∧
    HasField fields "server" ReadableServer {} c.server ∧
    HasField fields "stats" DescribesStats {} c.stats

theorem readRoot_eq_ok_iff {d : Document} {root : Node} {tree : Tree} {c : Config}
    (h : root.tree? = some tree) : readRoot d root = .ok c ↔ ReadableRoot tree c := by
  rw [readRoot]
  refine (bind_readMapping_eq_ok_iff (P := fun entries => ∃ fields,
    Fields ["version", "server", "stats"] entries fields ∧
      Fills ReadsRoot {} fields ⟨some c.version, c.server, c.stats⟩) h ?_).trans ?_
  · intro entries trees place pairs
    dsimp only
    rw [bind_eq_ok_iff]
    refine (exists_congr fun draft => and_congr_left fun _ =>
      readFields_eq_ok_iff (fun a name path node tree b isTree =>
        (?_ : _ ↔ ReadsRoot a name tree b)) pairs [] _ _).trans ?_
    · rw [ReadsRoot]
      split_ifs with version server
      · exact take_eq_ok_iff fun _ => readInteger_eq_ok_iff (by decide) isTree
      · exact take_eq_ok_iff fun _ => readServer_eq_ok_iff isTree
      · exact take_eq_ok_iff fun _ => readStats_eq_ok_iff isTree
    · constructor
      · rintro ⟨⟨version, server, stats⟩, ⟨fields, areFields, -, fills⟩, whole⟩
        cases version with
        | none => cases whole
        | some version =>
          cases whole
          exact ⟨fields, areFields, fills⟩
      · rintro ⟨fields, areFields, fills⟩
        exact ⟨_, ⟨fields, areFields, by simp, fills⟩, rfl⟩
  · refine exists_congr fun entries => ?_
    rw [← exists_and_left]
    refine exists_congr fun fields => and_congr_right fun _ => and_congr_right fun areFields => ?_
    rw [fills_root_iff areFields.known areFields.distinct]
    refine and_congr_left fun _ => ?_
    rw [HasField]
    cases fields.lookup "version" <;> simp

theorem readDocument_eq_ok_iff {text : String} {tree : Tree} {c : Config}
    (h : IsDocument text tree) :
    readDocument (Document.ofText text) = .ok c ↔ ReadableRoot tree c := by
  rw [readDocument, h.whole, h.single, ← readRoot_eq_ok_iff h.tree]
  cases readRoot (Document.ofText text) (Document.ofText text).root with
  | error fault => simp [bind, Except.bind]
  | ok config => simp [bind, Except.bind]

/-! ## Ranges -/

theorem server_problem?_eq_none_iff {s : ServerSection} :
    s.problem? = none ↔
      (∃ address, Address.ofString? s.listen = some address) ∧
        100 ≤ s.graceMillis ∧ s.graceMillis ≤ 60000 := by
  rw [ServerSection.problem?, ServerSection.address?, leastGrace, greatestGrace]
  cases Address.ofString? s.listen with
  | none => simp
  | some address =>
    simp only [Option.isNone_some, Bool.false_eq_true, if_false, Option.some.injEq,
      exists_eq', true_and]
    split_ifs with range
    · simp
      omega
    · simp
      omega

theorem stats_problem?_eq_none_iff {s : StatsSection} :
    s.problem? = none ↔
      Text.isWord s.base = true ∧ ∀ host, s.host = some host → Text.isWord host = true := by
  rw [StatsSection.problem?]
  cases Text.isWord s.base with
  | false => simp
  | true => cases s.host <;> simp

theorem problem?_eq_none_iff {c : Config} : c.problem? = none ↔ Holds c := by
  rw [Config.problem?, knownVersion]
  split_ifs with version
  · exact iff_of_false not_false fun holds => version holds.version
  · rw [Option.or_eq_none_iff, server_problem?_eq_none_iff, stats_problem?_eq_none_iff]
    constructor
    · rintro ⟨⟨listen, grace⟩, base, host⟩
      exact ⟨by simpa using version, listen, grace, base, host⟩
    · rintro ⟨-, listen, grace, base, host⟩
      exact ⟨⟨listen, grace⟩, base, host⟩

theorem check_eq_ok_iff {c c' : Config} : c.check = .ok c' ↔ c = c' ∧ Holds c' := by
  rw [check, ← problem?_eq_none_iff]
  cases found : c.problem? with
  | none =>
    constructor
    · intro same
      cases same
      exact ⟨rfl, found⟩
    · rintro ⟨rfl, -⟩
      rfl
  | some problem =>
    refine iff_of_false (fun passed => by cases passed) ?_
    rintro ⟨rfl, holds⟩
    rw [found] at holds
    cases holds

/-- A configuration that holds has no integer that a reader refuses. -/
theorem readableRoot_iff {root : Tree} {c : Config} (holds : Holds c) :
    ReadableRoot root c ↔ Describes root c := by
  have version : c.version < UInt32.size := by
    rw [holds.version]
    decide
  have grace : c.server.graceMillis < UInt64.size :=
    Nat.lt_of_le_of_lt holds.grace.2 (by decide)
  have server (value : Tree) :
      ReadableServer value c.server ↔ DescribesServer value c.server := by
    refine exists_congr fun entries => exists_congr fun fields => ?_
    refine and_congr_right fun _ => and_congr_right fun _ => and_congr_right fun _ => ?_
    exact field_congr fun value => and_iff_left grace
  refine exists_congr fun entries => exists_congr fun fields => ?_
  refine and_congr_right fun _ => and_congr_right fun _ => and_congr ?_ (and_congr_left fun _ => ?_)
  · exact exists_congr fun value => and_congr_right fun _ => and_iff_left version
  · exact field_congr server

theorem ofText_eq_ok_iff {text : String} {tree : Tree} {c : Config} (h : IsDocument text tree) :
    Config.ofText text = .ok c ↔ Describes tree c ∧ Holds c := by
  unfold Config.ofText
  have read := @readDocument_eq_ok_iff text tree
  cases took : readDocument (Document.ofText text) with
  | error fault =>
    refine iff_of_false nofun ?_
    rintro ⟨describes, holds⟩
    have := (read h).2 ((readableRoot_iff holds).2 describes)
    rw [took] at this
    cases this
  | ok config =>
    dsimp only
    rw [check_eq_ok_iff]
    refine and_congr_left fun holds => ?_
    rw [← readableRoot_iff holds, ← read h, took, Except.ok.injEq]

/-! ## The order of entries -/

theorem lookup_perm {fields fields' : List (String × Tree)} (perm : fields.Perm fields')
    (distinct : (fields.map (·.1)).Nodup) (name : String) :
    fields.lookup name = fields'.lookup name := by
  induction perm with
  | nil => rfl
  | cons field perm ih =>
    rw [List.lookup_cons, List.lookup_cons, ih (List.nodup_cons.1 distinct).2]
  | swap a b rest =>
    obtain ⟨first, a⟩ := a
    obtain ⟨second, b⟩ := b
    have differ : second ≠ first := by
      rintro rfl
      simp at distinct
    rw [List.lookup_cons, List.lookup_cons, List.lookup_cons, List.lookup_cons]
    by_cases atFirst : name = first
    · have notSecond : (name == second) = false := by simpa [atFirst] using differ.symm
      simp [atFirst, atFirst ▸ notSecond]
    · have notFirst : (name == first) = false := by simpa using atFirst
      rw [notFirst]
  | trans perm _ ih ih' =>
    exact (ih distinct).trans (ih' ((perm.map _).nodup_iff.1 distinct))

/-- Entries in another order are the same fields in that order. -/
theorem exists_fields_perm {known : List String} {entries entries' : List (Tree × Tree)}
    {fields : List (String × Tree)} (perm : entries.Perm entries')
    (h : Fields known entries fields) :
    ∃ fields', Fields known entries' fields' ∧ fields.Perm fields' := by
  induction perm generalizing fields with
  | nil => exact ⟨fields, h, .refl _⟩
  | cons entry perm ih =>
    obtain ⟨name, rest, rfl, isName, isKnown, new, areFields⟩ := fields_cons_iff.1 h
    obtain ⟨rest', areFields', permFields⟩ := ih areFields
    refine ⟨(name, entry.2) :: rest', fields_cons_iff.2 ⟨name, rest', rfl, isName, isKnown, ?_,
      areFields'⟩, permFields.cons _⟩
    exact fun mem => new ((permFields.map _).mem_iff.2 mem)
  | swap a b rest =>
    obtain ⟨second, _, rfl, isSecond, secondKnown, secondNew, h⟩ := fields_cons_iff.1 h
    obtain ⟨first, fields, rfl, isFirst, firstKnown, firstNew, h⟩ := fields_cons_iff.1 h
    simp only [List.map_cons, List.mem_cons, not_or] at secondNew
    refine ⟨(first, a.2) :: (second, b.2) :: fields, ?_, .swap _ _ _⟩
    refine fields_cons_iff.2 ⟨first, _, rfl, isFirst, firstKnown, ?_, ?_⟩
    · simpa using ⟨fun same => secondNew.1 same.symm, by simpa using firstNew⟩
    · exact fields_cons_iff.2 ⟨second, _, rfl, isSecond, secondKnown, secondNew.2, h⟩
  | trans _ _ ih ih' =>
    obtain ⟨mid, areMid, toMid⟩ := ih h
    obtain ⟨fields', areFields', onward⟩ := ih' areMid
    exact ⟨fields', areFields', toMid.trans onward⟩

/-- `Interchangeable a b`: neither value will do where the other one will not. -/
structure Interchangeable (a b : Tree) : Prop where
  text : ∀ s, IsText a s ↔ IsText b s
  integer : ∀ n, IsInteger a n ↔ IsInteger b n
  optionalText : ∀ s, IsOptionalText a s ↔ IsOptionalText b s
  server : ∀ s, DescribesServer a s ↔ DescribesServer b s
  stats : ∀ s, DescribesStats a s ↔ DescribesStats b s
  root : ∀ c, Describes a c ↔ Describes b c

theorem Interchangeable.refl (a : Tree) : Interchangeable a a :=
  ⟨fun _ => Iff.rfl, fun _ => Iff.rfl, fun _ => Iff.rfl, fun _ => Iff.rfl, fun _ => Iff.rfl,
    fun _ => Iff.rfl⟩

theorem Interchangeable.symm {a b : Tree} (h : Interchangeable a b) : Interchangeable b a where
  text s := (h.text s).symm
  integer n := (h.integer n).symm
  optionalText s := (h.optionalText s).symm
  server s := (h.server s).symm
  stats s := (h.stats s).symm
  root c := (h.root c).symm

theorem Interchangeable.trans {a b c : Tree} (h : Interchangeable a b)
    (h' : Interchangeable b c) : Interchangeable a c where
  text s := (h.text s).trans (h'.text s)
  integer n := (h.integer n).trans (h'.integer n)
  optionalText s := (h.optionalText s).trans (h'.optionalText s)
  server s := (h.server s).trans (h'.server s)
  stats s := (h.stats s).trans (h'.stats s)
  root config := (h.root config).trans (h'.root config)

/-- `Matches entries entries'`: the fields among the second entries are those among the
first, up to values that are interchangeable. -/
def Matches (entries entries' : List (Tree × Tree)) : Prop :=
  ∀ known fields, Fields known entries fields → ∃ fields', Fields known entries' fields' ∧
    ∀ name, Option.Rel Interchangeable (fields.lookup name) (fields'.lookup name)

theorem matches_of_perm {entries entries' : List (Tree × Tree)} (perm : entries.Perm entries') :
    Matches entries entries' := by
  intro known fields areFields
  obtain ⟨fields', areFields', permFields⟩ := exists_fields_perm perm areFields
  refine ⟨fields', areFields', fun name => ?_⟩
  rw [lookup_perm permFields areFields.distinct]
  cases fields'.lookup name with
  | none => exact .none
  | some value => exact .some (.refl value)

theorem matches_of_head {key value value' : Tree} {rest : List (Tree × Tree)}
    (h : Interchangeable value value') :
    Matches ((key, value) :: rest) ((key, value') :: rest) := by
  intro known fields areFields
  obtain ⟨name, fields, rfl, isName, isKnown, new, areFields⟩ := fields_cons_iff.1 areFields
  refine ⟨(name, value') :: fields,
    fields_cons_iff.2 ⟨name, fields, rfl, isName, isKnown, new, areFields⟩, fun other => ?_⟩
  rw [List.lookup_cons, List.lookup_cons]
  cases other == name with
  | true => exact .some h
  | false =>
    cases fields.lookup other with
    | none => exact .none
    | some value => exact .some (.refl value)

section

variable {entries entries' : List (Tree × Tree)}

theorem field_of_rel {α : Type} {fields fields' : List (String × Tree)} {name : String}
    {Fits : Tree → α → Prop} {default a : α}
    (rel : Option.Rel Interchangeable (fields.lookup name) (fields'.lookup name))
    (respects : ∀ value value', Interchangeable value value' → Fits value a → Fits value' a)
    (h : HasField fields name Fits default a) : HasField fields' name Fits default a := by
  rw [HasField] at h ⊢
  cases given : fields.lookup name with
  | none =>
    rw [given] at rel h
    cases given' : fields'.lookup name with
    | none => exact h
    | some value' => rw [given'] at rel; cases rel
  | some value =>
    rw [given] at rel h
    cases given' : fields'.lookup name with
    | none => rw [given'] at rel; cases rel
    | some value' =>
      rw [given'] at rel
      cases rel with
      | some alike => exact respects value value' alike h

theorem describesServer_of_matches (h : Matches entries entries') {s : ServerSection} :
    DescribesServer (.mapping entries) s → DescribesServer (.mapping entries') s := by
  rintro ⟨_, fields, ⟨⟩, areFields, listen, grace⟩
  obtain ⟨fields', areFields', rel⟩ := h _ fields areFields
  refine ⟨_, fields', rfl, areFields', ?_, ?_⟩
  · exact field_of_rel (rel _) (fun _ _ alike => (alike.text _).1) listen
  · exact field_of_rel (rel _) (fun _ _ alike => (alike.integer _).1) grace

theorem describesStats_of_matches (h : Matches entries entries') {s : StatsSection} :
    DescribesStats (.mapping entries) s → DescribesStats (.mapping entries') s := by
  rintro ⟨_, fields, ⟨⟩, areFields, base, host⟩
  obtain ⟨fields', areFields', rel⟩ := h _ fields areFields
  refine ⟨_, fields', rfl, areFields', ?_, ?_⟩
  · exact field_of_rel (rel _) (fun _ _ alike => (alike.text _).1) base
  · exact field_of_rel (rel _) (fun _ _ alike => (alike.optionalText _).1) host

theorem describes_of_matches (h : Matches entries entries') {c : Config} :
    Describes (.mapping entries) c → Describes (.mapping entries') c := by
  rintro ⟨_, fields, ⟨⟩, areFields, ⟨value, given, isInteger⟩, server, stats⟩
  obtain ⟨fields', areFields', rel⟩ := h _ fields areFields
  refine ⟨_, fields', rfl, areFields', ?_, ?_, ?_⟩
  · have version := rel "version"
    rw [given] at version
    cases given' : fields'.lookup "version" with
    | none => rw [given'] at version; cases version
    | some value' =>
      rw [given'] at version
      cases version with
      | some alike => exact ⟨value', rfl, (alike.integer _).1 isInteger⟩
  · exact field_of_rel (rel _) (fun _ _ alike => (alike.server _).1) server
  · exact field_of_rel (rel _) (fun _ _ alike => (alike.stats _).1) stats

/-- No mapping is a scalar of any kind. -/
theorem interchangeable_of_matches (h : Matches entries entries')
    (h' : Matches entries' entries) : Interchangeable (.mapping entries) (.mapping entries') where
  text _ := iff_of_false nofun nofun
  integer _ := iff_of_false nofun nofun
  optionalText s := by
    have none (entries : List (Tree × Tree)) : ¬ IsOptionalText (.mapping entries) s := by
      rintro (⟨⟨_, ⟨⟩, -⟩, -⟩ | ⟨-, _, ⟨⟩, -⟩)
    exact iff_of_false (none _) (none _)
  server _ := ⟨describesServer_of_matches h, describesServer_of_matches h'⟩
  stats _ := ⟨describesStats_of_matches h, describesStats_of_matches h'⟩
  root _ := ⟨describes_of_matches h, describes_of_matches h'⟩

end

theorem interchangeable_of_reordered {a b : Tree} (h : Reordered a b) : Interchangeable a b := by
  induction h with
  | refl a => exact .refl a
  | perm perm => exact interchangeable_of_matches (matches_of_perm perm) (matches_of_perm perm.symm)
  | within _ ih =>
    exact interchangeable_of_matches (matches_of_head ih) (matches_of_head ih.symm)
  | trans _ _ ih ih' => exact ih.trans ih'

end AcceptanceLemmas

open Yaml Config AcceptanceLemmas

/-- A document is loaded exactly if it describes a configuration that holds, and it is
loaded as that configuration. The order of entries makes no difference to that, in
whatever mappings it differs. -/
theorem accepted_iff_described {text : String} {entries : List (Tree × Tree)}
    (document : IsDocument text (.mapping entries)) :
    (∀ config, Config.ofText text = .ok config ↔
        Describes (.mapping entries) config ∧ Holds config) ∧
      ∀ other tree, IsDocument other tree → Reordered (.mapping entries) tree →
        ∀ config, Config.ofText other = .ok config ↔ Config.ofText text = .ok config := by
  refine ⟨fun config => ofText_eq_ok_iff document, ?_⟩
  intro other tree otherDocument reordered config
  rw [ofText_eq_ok_iff document, ofText_eq_ok_iff otherDocument,
    (interchangeable_of_reordered reordered).root]

/-- A configuration that serves on an address of its own, with its version last. -/
def exServing : String :=
  "server: \x7bshutdown_grace_ms: +250, listen: '[::1]:80'\x7d\nversion: 0x1\n"

/-- The same configuration in the usual order. -/
def exUsual : String :=
  "version: 0x1\nserver: \x7blisten: '[::1]:80', shutdown_grace_ms: +250\x7d\n"

/-- A plain scalar at a place. -/
def exPlain (text : String) (line column : Nat) : Placed :=
  (.scalar ⟨text, .plain, none⟩, ⟨line, column⟩)

theorem accepted_iff_described_exServing :
    let version := (Tree.scalar "version" true, Tree.scalar "0x1" true)
    let grace := (Tree.scalar "shutdown_grace_ms" true, Tree.scalar "+250" true)
    let listen := (Tree.scalar "listen" true, Tree.scalar "[::1]:80" false)
    let server := Tree.scalar "server" true
    let entries := [(server, .mapping [grace, listen]), version]
    let entries' := [version, (server, .mapping [listen, grace])]
    let config : Config := { server := { listen := "[::1]:80", graceMillis := 250 } }
    IsDocument exServing (.mapping entries) ∧ IsDocument exUsual (.mapping entries') ∧
      Reordered (.mapping entries) (.mapping entries') ∧
      Config.ofText exServing = .ok config ∧ Describes (.mapping entries) config ∧
      Config.ofText exUsual = .ok config := by
  intro version grace listen server entries entries' config
  have serving : Document.ofText exServing =
      { content :=
          [(.mappingBegin, ⟨0, 0⟩), exPlain "server" 0 0, (.mappingBegin, ⟨0, 8⟩),
            exPlain "shutdown_grace_ms" 0 9, exPlain "+250" 0 28, exPlain "listen" 0 34,
            (.scalar ⟨"[::1]:80", .singleQuoted, none⟩, ⟨0, 42⟩), (.mappingFinish, ⟨0, 52⟩),
            exPlain "version" 1 0, exPlain "0x1" 1 9, (.mappingFinish, ⟨2, 0⟩)] } := by
    decide +kernel
  have usual : Document.ofText exUsual =
      { content :=
          [(.mappingBegin, ⟨0, 0⟩), exPlain "version" 0 0, exPlain "0x1" 0 9,
            exPlain "server" 1 0, (.mappingBegin, ⟨1, 8⟩), exPlain "listen" 1 9,
            (.scalar ⟨"[::1]:80", .singleQuoted, none⟩, ⟨1, 17⟩),
            exPlain "shutdown_grace_ms" 1 29, exPlain "+250" 1 48, (.mappingFinish, ⟨1, 52⟩),
            (.mappingFinish, ⟨2, 0⟩)] } := by
    decide +kernel
  have document : IsDocument exServing (.mapping entries) :=
    ⟨by rw [serving], by rw [serving], by rw [serving]; rfl⟩
  have document' : IsDocument exUsual (.mapping entries') :=
    ⟨by rw [usual], by rw [usual], by rw [usual]; rfl⟩
  have reordered : Reordered (.mapping entries) (.mapping entries') :=
    .trans (.within (.perm (.swap listen grace []))) (.perm (.swap version _ []))
  have loaded : Config.ofText exServing = .ok config := by decide +kernel
  obtain ⟨accepted, same⟩ := accepted_iff_described document
  exact ⟨document, document', reordered, loaded, ((accepted config).1 loaded).1,
    (same _ _ document' reordered config).2 loaded⟩

end AdminPort
