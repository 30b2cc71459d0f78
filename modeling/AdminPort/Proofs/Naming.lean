import AdminPort.Proofs.Encounter

/-!
# Commands by their names

A list of commands makes a table just if no two of them have one name. Any other list is
refused, and what is said then shows the first name in the list that came before.

The order of the list makes no difference to the table. A command is found under its name
to the letter, and the names are told in the order of their code points.

Results:
1. `repeated?_eq_some_iff`, `repeated?_eq_none_iff`: the name that is refused, if there is one.
2. `ofList_eq_ok_iff`, `ofList_eq_error_iff`: what becomes of a list.
3. `precedes_iff`: the order of the names is that of their code points.
4. `names_eq_iff`: they are put in order in one way only.
5. `table_of_list`: a table is the directory of its commands.
-/

namespace AdminPort

/-! ## Definitions -/

/-- `Precedes a b`: of two texts `a` comes first.

* `ends`: it ends where the other goes on.
* `smaller`: it has the smaller code point where they part.
* `same`: up to there they are the same. -/
inductive Precedes : List Char → List Char → Prop
  | ends (c : Char) (r : List Char) : Precedes [] (c :: r)
  | smaller {c d : Char} (r s : List Char) : c.toNat < d.toNat → Precedes (c :: r) (d :: s)
  | same (c : Char) {r s : List Char} : Precedes r s → Precedes (c :: r) (c :: s)

/-- `FirstRepeat commands c`: before `c` stands a command of its name, and up to there all
names are different. -/
def FirstRepeat (commands : List Command) (c : Command) : Prop :=
  ∃ before after, commands = before ++ c :: after ∧ (before.map Command.name).Nodup ∧
    c.name ∈ before.map Command.name

/-- `Directory commands t`: the table tells about these commands and no others.

* `found`: under a key it has the one command of that name.
* `missing`: it has nothing under a key that is no command's name.
* `listed`: its names are the names of the commands.
* `inOrder`: they stand in the order of their code points, none of them twice. -/
structure Directory (commands : List Command) (t : Table) : Prop where
  found : ∀ key c, t.find? key = some c ↔
    c ∈ commands ∧ c.name = key ∧ ∀ d ∈ commands, d.name = key → d = c
  missing : ∀ key, t.find? key = none ↔ ∀ c ∈ commands, c.name ≠ key
  listed : ∀ name, name ∈ t.names ↔ ∃ c ∈ commands, c.name = name
  inOrder : t.names.Pairwise fun a b => Precedes a.toList b.toList

/-! ## The order of the names -/

theorem precedes_iff_lt {a b : List Char} : Precedes a b ↔ a < b := by
  constructor
  · intro precedes
    induction precedes with
    | ends c r => exact List.nil_lt_cons c r
    | smaller r s less => exact List.cons_lt_cons_iff.2 (.inl (UInt32.lt_iff_toNat_lt.2 less))
    | same c _ ih => exact List.cons_lt_cons_iff.2 (.inr ⟨rfl, ih⟩)
  · intro less
    induction a generalizing b with
    | nil =>
      cases b with
      | nil => exact absurd less (List.not_lt_nil [])
      | cons d s => exact .ends d s
    | cons c r ih =>
      cases b with
      | nil => exact absurd less (List.not_lt_nil _)
      | cons d s =>
        rcases List.cons_lt_cons_iff.1 less with smaller | ⟨rfl, behind⟩
        · exact .smaller r s (UInt32.lt_iff_toNat_lt.1 smaller)
        · exact .same c (ih behind)

theorem precedes_iff {a b : String} : Precedes a.toList b.toList ↔ a < b := by
  rw [precedes_iff_lt, String.lt_iff]

namespace Table

/-! ## Names that repeat -/

section

variable {seen : List String} {commands : List Command}

theorem repeated?_eq_none_iff : repeated? seen commands = none ↔
    (commands.map Command.name).Nodup ∧ ∀ c ∈ commands, c.name ∉ seen := by
  refine ⟨nodup_of_repeated?, ?_⟩
  rintro ⟨nodup, apart⟩
  induction commands generalizing seen with
  | nil => rfl
  | cons c rest ih =>
    rw [List.map_cons, List.nodup_cons] at nodup
    rw [repeated?, if_neg (apart c List.mem_cons_self)]
    refine ih nodup.2 fun d mem => ?_
    rw [List.mem_cons, not_or]
    refine ⟨fun same => nodup.1 ?_, apart d (List.mem_cons_of_mem c mem)⟩
    exact same ▸ List.mem_map_of_mem mem

theorem repeated?_append {before : List Command} (fresh : repeated? seen before = none)
    (after : List Command) : repeated? seen (before ++ after) =
      repeated? ((before.map Command.name).reverse ++ seen) after := by
  induction before generalizing seen with
  | nil => rfl
  | cons c rest ih =>
    rw [repeated?] at fresh
    split at fresh
    · cases fresh
    · next new =>
      rw [List.cons_append, repeated?, if_neg new, ih fresh]
      simp

/-- The key that is found came before, and no key in front of it did. -/
theorem exists_of_repeated? {name : String} (h : repeated? seen commands = some name) :
    ∃ before c after, commands = before ++ c :: after ∧ repeated? seen before = none ∧
      (c.name ∈ before.map Command.name ∨ c.name ∈ seen) ∧ c.name = name := by
  induction commands generalizing seen with
  | nil => cases h
  | cons c rest ih =>
    rw [repeated?] at h
    split at h
    · next known =>
      cases h
      exact ⟨[], c, rest, rfl, rfl, .inr known, rfl⟩
    · next new =>
      obtain ⟨before, d, after, rfl, fresh, known, name⟩ := ih h
      refine ⟨c :: before, d, after, rfl, ?_, ?_, name⟩
      · rw [repeated?, if_neg new, fresh]
      · rw [List.map_cons, List.mem_cons]
        rcases known with earlier | known
        · exact .inl (.inr earlier)
        · rcases List.mem_cons.1 known with here | seen
          · exact .inl (.inl here)
          · exact .inr seen

end

theorem repeated?_eq_some_iff {commands : List Command} {name : String} :
    repeated? [] commands = some name ↔ ∃ c, FirstRepeat commands c ∧ c.name = name := by
  constructor
  · intro repeated
    obtain ⟨before, c, after, cut, fresh, known, name⟩ := exists_of_repeated? repeated
    have known : c.name ∈ before.map Command.name := known.resolve_right List.not_mem_nil
    exact ⟨c, ⟨before, after, cut, (repeated?_eq_none_iff.1 fresh).1, known⟩, name⟩
  · rintro ⟨c, ⟨before, after, rfl, nodup, known⟩, rfl⟩
    have fresh : repeated? [] before = none := repeated?_eq_none_iff.2 ⟨nodup, by simp⟩
    rw [repeated?_append fresh, repeated?, if_pos (by simpa using known)]

/-! ## What becomes of a list -/

section

variable {commands : List Command} {t : Table}

theorem ofList_eq_ok_iff : ofList commands = .ok t ↔
    (commands.map Command.name).Nodup ∧ t.commands = commands := by
  unfold ofList
  split
  · next name repeated =>
    have repeats : ¬ (commands.map Command.name).Nodup := by
      intro nodup
      rw [repeated?_eq_none_iff.2 ⟨nodup, by simp⟩] at repeated
      cases repeated
    simp [repeats]
  · next fresh =>
    constructor
    · rintro ⟨rfl⟩
      exact ⟨(nodup_of_repeated? fresh).1, rfl⟩
    · rintro ⟨nodup, rfl⟩
      rfl

theorem ofList_eq_error_iff {fault : Fault} : ofList commands = .error fault ↔
    ∃ c, FirstRepeat commands c ∧
      fault = .internal ("duplicate command routing key: " ++ Text.Quoted.quote c.name) := by
  unfold ofList
  split
  · next name repeated =>
    obtain ⟨c, first, rfl⟩ := repeated?_eq_some_iff.1 repeated
    constructor
    · rintro ⟨rfl⟩
      exact ⟨c, first, rfl⟩
    · rintro ⟨d, other, rfl⟩
      -- the first repeat has one name, however the list is cut
      rw [repeated?_eq_some_iff.2 ⟨d, other, rfl⟩] at repeated
      rw [Option.some.inj repeated]
  · next fresh =>
    have never : ¬ ∃ c, FirstRepeat commands c := by
      rintro ⟨c, first⟩
      rw [repeated?_eq_some_iff.2 ⟨c, first, rfl⟩] at fresh
      cases fresh
    constructor
    · rintro ⟨⟩
    · rintro ⟨c, first, -⟩
      exact absurd ⟨c, first⟩ never

/-! ## Names in order -/

theorem pairwise_names (t : Table) : t.names.Pairwise fun a b => a ≤ b := by
  have trans (a b c : String) (ab : decide (a ≤ b) = true) (bc : decide (b ≤ c) = true) :
      decide (a ≤ c) = true :=
    decide_eq_true (String.le_trans (of_decide_eq_true ab) (of_decide_eq_true bc))
  have total (a b : String) : (decide (a ≤ b) || decide (b ≤ a)) = true := by
    simpa using String.le_total a b
  simpa [names] using List.pairwise_mergeSort trans total (t.commands.map Command.name)

theorem names_perm (t : Table) : t.names.Perm (t.commands.map Command.name) :=
  List.mergeSort_perm _ _

theorem directory (made : ofList commands = .ok t) : Directory commands t := by
  obtain ⟨nodup, rfl⟩ := ofList_eq_ok_iff.1 made
  constructor
  · intro key c
    rw [find?_eq_some_iff]
    constructor
    · rintro ⟨mem, rfl⟩
      exact ⟨mem, rfl, fun d other same => List.inj_on_of_nodup_map nodup other mem same⟩
    · rintro ⟨mem, name, -⟩
      exact ⟨mem, name⟩
  · exact fun key => find?_eq_none_iff
  · intro name
    rw [(names_perm t).mem_iff, List.mem_map]
  · have distinct : t.names.Nodup := (names_perm t).nodup_iff.2 nodup
    refine ((pairwise_names t).and distinct).imp ?_
    rintro a b ⟨le, ne⟩
    exact precedes_iff.2 (String.not_le.1 fun ge => ne (String.le_antisymm le ge))

/-- There is one way to put the names in order. -/
theorem names_eq_iff {l : List String} : t.names = l ↔
    l.Perm (t.commands.map Command.name) ∧ l.Pairwise fun a b => a ≤ b := by
  constructor
  · rintro rfl
    exact ⟨names_perm t, pairwise_names t⟩
  · rintro ⟨perm, order⟩
    have same : t.names.Perm l := (names_perm t).trans perm.symm
    refine same.eq_of_pairwise (fun a b _ _ le ge => ?_) (pairwise_names t) order
    exact String.le_antisymm le ge

theorem names_congr {s : Table} (perm : s.commands.Perm t.commands) : s.names = t.names :=
  names_eq_iff.2 ⟨(names_perm t).trans (perm.map _).symm, pairwise_names t⟩

theorem find?_congr {s : Table} (perm : s.commands.Perm t.commands) (key : String) :
    s.find? key = t.find? key := by
  refine Option.ext fun c => ?_
  rw [find?_eq_some_iff, find?_eq_some_iff, perm.mem_iff]

end

/-! ## Main result -/

/-- A list of commands makes a table just if their names are all different; otherwise the
first name that came before is refused and told. The table is a directory of the commands,
and the commands in any other order make one that finds and tells the same. -/
theorem table_of_list (commands : List Command) :
    ((∃ t, ofList commands = .ok t) ↔ (commands.map Command.name).Nodup) ∧
      (∀ fault, ofList commands = .error fault ↔ ∃ c, FirstRepeat commands c ∧
        fault = .internal ("duplicate command routing key: " ++ Text.Quoted.quote c.name)) ∧
      ∀ t, ofList commands = .ok t → Directory commands t ∧
        ∀ other, other.Perm commands → ∃ s, ofList other = .ok s ∧
          (∀ key, s.find? key = t.find? key) ∧ s.names = t.names := by
  refine ⟨?_, fun fault => ofList_eq_error_iff, ?_⟩
  · constructor
    · rintro ⟨t, made⟩
      exact (ofList_eq_ok_iff.1 made).1
    · intro nodup
      exact ⟨⟨commands, nodup⟩, ofList_eq_ok_iff.2 ⟨nodup, rfl⟩⟩
  · intro t made
    refine ⟨directory made, fun other perm => ?_⟩
    obtain ⟨nodup, rfl⟩ := ofList_eq_ok_iff.1 made
    have nodup' : (other.map Command.name).Nodup := (perm.map _).nodup_iff.2 nodup
    refine ⟨⟨other, nodup'⟩, ofList_eq_ok_iff.2 ⟨nodup', rfl⟩, ?_, ?_⟩
    · exact find?_congr perm
    · exact names_congr perm

/-- Commands whose names differ in a letter, or have none. -/
def exNames : List Command :=
  [.stats, .script "Stats" [], .version, .script "" []]

/-- All of them are found, and in another order too. A list that repeats two of the names
is refused for the one that comes again first. -/
theorem table_of_list_exNames :
    let t : Table := ⟨exNames, by decide⟩
    let s : Table := ⟨exNames.reverse, by decide⟩
    ofList exNames = .ok t ∧ t.find? "Stats" = some (.script "Stats" []) ∧
      t.find? "sta" = none ∧ t.names = ["", "Stats", "stats", "version"] ∧
      exNames.reverse.Perm exNames ∧ s.names = t.names ∧
      ofList (exNames ++ [.version, .stats]) =
        .error (.internal "duplicate command routing key: \"version\"") := by
  intro t s
  have made : ofList exNames = .ok t := ofList_eq_ok_iff.2 ⟨t.nodup, rfl⟩
  have perm : exNames.reverse.Perm exNames := List.reverse_perm exNames
  obtain ⟨directory, reordered⟩ := (table_of_list exNames).2.2 t made
  obtain ⟨s', made', -, names⟩ := reordered _ perm
  have same : s = s' := by
    rw [ofList_eq_ok_iff.2 ⟨s.nodup, rfl⟩] at made'
    exact Except.ok.inj made'
  refine ⟨made, ?_, ?_, ?_, perm, same ▸ names, ?_⟩
  · exact (directory.found _ _).2 (by decide)
  · exact (directory.missing _).2 (by decide)
  · exact names_eq_iff.2 (by decide +kernel)
  · exact ((table_of_list _).2.1 _).2 ⟨.version, ⟨exNames, [.stats], rfl, by decide⟩, rfl⟩

end Table

end AdminPort
