import AdminPort.Command

/-!
# The command table

Commands by routing key. No two commands of a table have the same key.

Results:
1. `nodup_of_repeated?`: a list in which no key repeats makes a table.
2. `mem_of_find?`: a command that is found is in the table under the key asked for.
-/

namespace AdminPort

/-- Commands with distinct routing keys. -/
structure Table where
  commands : List Command
  nodup : (commands.map Command.name).Nodup
deriving DecidableEq, Repr

namespace Table

/-- The first key of a list that came before, in the list or among the keys already seen. -/
def repeated? (seen : List String) : List Command → Option String
  | [] => none
  | c :: rest => if c.name ∈ seen then some c.name else repeated? (c.name :: seen) rest

theorem nodup_of_repeated? {seen : List String} {commands : List Command}
    (h : repeated? seen commands = none) :
    (commands.map Command.name).Nodup ∧ ∀ c ∈ commands, c.name ∉ seen := by
  induction commands generalizing seen with
  | nil => simp
  | cons c rest ih =>
    rw [repeated?] at h
    split at h
    · cases h
    · next fresh =>
      obtain ⟨nodup, apart⟩ := ih h
      refine ⟨?_, ?_⟩
      · rw [List.map_cons, List.nodup_cons]
        refine ⟨?_, nodup⟩
        intro mem
        obtain ⟨d, hd, same⟩ := List.mem_map.1 mem
        exact apart d hd (same ▸ List.mem_cons_self)
      · intro d hd
        rcases List.mem_cons.1 hd with rfl | hd
        · exact fresh
        · exact fun mem => apart d hd (List.mem_cons_of_mem _ mem)

/-- The table of a list of commands; a key that repeats is refused. -/
def ofList (commands : List Command) : Except Fault Table :=
  match h : repeated? [] commands with
  | some name =>
    .error (.internal ("duplicate command routing key: " ++ Text.Quoted.quote name))
  | none => .ok ⟨commands, (nodup_of_repeated? h).1⟩

/-- The table of the built-in commands. -/
def builtin : Table := ⟨[.shutdown, .stats, .version], by decide⟩

/-- The command with a routing key. -/
def find? (t : Table) (key : String) : Option Command :=
  t.commands.find? (·.name == key)

/-- The routing keys in the order of their code points. -/
def names (t : Table) : List String :=
  (t.commands.map Command.name).mergeSort fun a b => decide (a ≤ b)

theorem mem_of_find? {t : Table} {key : String} {c : Command} (h : t.find? key = some c) :
    c ∈ t.commands ∧ c.name = key :=
  ⟨List.mem_of_find?_eq_some h, by simpa using List.find?_some h⟩

end Table

end AdminPort
