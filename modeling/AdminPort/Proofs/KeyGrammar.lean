import AdminPort.Proofs.Account
import AdminPort.Proofs.Escape

/-!
# The grammar of routing keys

A target is a slash, the routing key, and whatever follows from the next slash or
question mark on. The key itself holds neither of the two; it is taken as it
stands, nothing is decoded and no case is folded.

The end of the key can be found byte by byte: each of the two delimiters is looked
for on its own, and the nearer one counts. Neither of them is a part of another
character, so characters are never cut.

A command is run for the requests whose target has its name for a key and for no
others. Whether it is run shows in what becomes of a request when the command is
taken off the table.

Results:
1. `ofTarget_eq_ok_iff`: the routing key of a target is the one of the grammar.
2. `Keyed.stop_eq`, `Keyed.cut`: the bytes of the key.
3. `ofTarget_eq_error_iff`: the targets without a key, and what is said about them.
4. `dispatch_eq_without`, `dispatch_ne_without`: what a command makes no difference to
   and what it does.
5. `routed_by_grammar`: keys and commands go by the grammar.
-/

namespace AdminPort

/-! ## Definitions -/

namespace RoutingKey

/-- `Keyed target key`: by the grammar, the key of the target is `key`. -/
def Keyed (target key : String) : Prop :=
  ∃ rest, target = "/" ++ key ++ rest ∧ '/' ∉ key.toList ∧ '?' ∉ key.toList ∧
    (rest = "" ∨ rest.toList.head? = some '/' ∨ rest.toList.head? = some '?')

/-- A text in bytes. -/
def bytes (s : String) : List UInt8 := s.toByteArray.data.toList

/-- Where the key of a target ends, in bytes: at the nearer of the two delimiters
behind the slash. One that is not there is as far away as the end. -/
def stop (target : String) : Nat :=
  let rest := (bytes target).drop 1
  1 + min (rest.findIdx (· == '/'.toUInt8)) (rest.findIdx (· == '?'.toUInt8))

/-- `ByGrammar target`: the routing key of the target is that of the grammar.

* `accepted`, `unique`: it is what the grammar says, and that is one text at most.
* `cut`: it lies between two offsets at which characters meet, behind the slash and
  at the nearer delimiter.
* `refused`, `blamed`: a target has no key just if it does not begin with a slash.
  The client is told so, in a text that shows the target escaped and nowhere else.
* `told`: that text tells which target it was. -/
structure ByGrammar (target : String) : Prop where
  accepted : ∀ key, ofTarget target = .ok key ↔ Keyed target key
  unique : ∀ key other, Keyed target key → Keyed target other → key = other
  cut : ∀ key, Keyed target key →
    (⟨1⟩ : String.Pos.Raw).IsValid target ∧ (⟨stop target⟩ : String.Pos.Raw).IsValid target ∧
      (bytes target).extract 1 (stop target) = bytes key
  refused : (∃ fault, ofTarget target = .error fault) ↔
    target = "" ∨ target.toList.head? ≠ some '/'
  blamed : ∀ fault, ofTarget target = .error fault →
    target = "" ∧ fault = .badRequest "Empty query" ∨
      target ≠ "" ∧ Text.Markup.Inert (Text.Markup.escape target).toList ∧
        fault = .badRequest ("Query doesn't start with a slash: <code>" ++
          Text.Markup.escape target ++ "</code>")
  told : ∀ other, noSlashMessage target = noSlashMessage other ↔ target = other

end RoutingKey

/-- The table without the command of a name. -/
def Table.without (t : Table) (name : String) : Table where
  commands := t.commands.filter (·.name ≠ name)
  nodup := t.nodup.sublist (List.filter_sublist.map _)

/-- The daemon without the command of a name. -/
def Setup.without (setup : Setup) (name : String) : Setup :=
  { setup with table := setup.table.without name }

/-! ## Segments -/

namespace RoutingKey

theorem endsSegment_iff {c : Char} : endsSegment c = true ↔ c = '/' ∨ c = '?' := by
  simp [endsSegment]

theorem forall_not_endsSegment_iff {s : List Char} :
    (∀ c ∈ s, endsSegment c = false) ↔ '/' ∉ s ∧ '?' ∉ s := by
  constructor
  · intro free
    exact ⟨fun mem => absurd (free _ mem) (by decide), fun mem => absurd (free _ mem) (by decide)⟩
  · rintro ⟨slash, question⟩ c mem
    rw [← Bool.not_eq_true, endsSegment_iff]
    rintro (rfl | rfl)
    · exact slash mem
    · exact question mem

/-- A text that may follow a key. -/
theorem boundary_iff {s : String} :
    s = "" ∨ s.toList.head? = some '/' ∨ s.toList.head? = some '?' ↔
      ∀ c, s.toList.head? = some c → endsSegment c = true := by
  rw [← String.toList_eq_nil_iff]
  cases s.toList <;> simp [endsSegment_iff]

theorem endsSegment_of_head?_afterSegment {s : List Char} {c : Char}
    (h : (afterSegment s).head? = some c) : endsSegment c = true := by
  have ends := List.head?_dropWhile_not (!endsSegment ·) s
  rw [← afterSegment, h] at ends
  simpa using ends

theorem segment_append {key rest : List Char} (free : ∀ c ∈ key, endsSegment c = false)
    (ended : ∀ c, rest.head? = some c → endsSegment c = true) : segment (key ++ rest) = key := by
  have none : rest.takeWhile (!endsSegment ·) = [] := by
    cases rest with
    | nil => rfl
    | cons c more => simp [ended c rfl]
  rw [segment, List.takeWhile_append_of_pos (by simpa using free), none, List.append_nil]

/-! ## Bytes -/

theorem bytes_eq (s : String) : bytes s = s.toList.flatMap String.utf8EncodeChar := by
  have whole : s.toByteArray = (s.toList.flatMap String.utf8EncodeChar).toByteArray := by
    rw [← List.utf8Encode, ← String.toByteArray_ofList, String.ofList_toList]
  rw [bytes, whole, List.data_toByteArray]

theorem bytes_append (s t : String) : bytes (s ++ t) = bytes s ++ bytes t := by
  simp [bytes_eq]

theorem length_bytes (s : String) : (bytes s).length = s.utf8ByteSize := rfl

theorem drop_bytes_slash (s : String) : (bytes ("/" ++ s)).drop 1 = bytes s := by
  rw [bytes_append]
  rfl

/-- All bytes of a character beyond ASCII have their highest bit set. -/
theorem toNat_of_mem_utf8EncodeChar {c : Char} {b : UInt8} (mem : b ∈ String.utf8EncodeChar c)
    (ascii : b.toNat < 128) : c.toNat = b.toNat := by
  have size : b.toNat < 256 := b.toNat_lt
  change c.val.toNat = b.toNat
  revert mem
  fun_cases String.utf8EncodeChar c with
  | case1 v small =>
    intro mem
    rw [List.mem_singleton.1 mem, UInt8.toNat_ofNat']
    omega
  | _ =>
    simp only [List.mem_cons, List.not_mem_nil, or_false, ← UInt8.toNat_inj, UInt8.toNat_ofNat']
    omega

section

variable {s t : String} {d : Char}

theorem mem_of_mem_bytes (ascii : d.toNat < 128) (mem : d.toUInt8 ∈ bytes s) : d ∈ s.toList := by
  rw [bytes_eq] at mem
  obtain ⟨c, within, mem⟩ := List.mem_flatMap.1 mem
  have byte : d.toUInt8.toNat = d.toNat := by
    rw [Char.toUInt8, UInt32.toNat_toUInt8]
    exact Nat.mod_eq_of_lt (Nat.lt_trans ascii (by decide))
  have same := toNat_of_mem_utf8EncodeChar mem (byte ▸ ascii)
  rwa [← Char.toNat_inj.1 (same.trans byte)]

/-- A delimiter that is not in a text is looked for behind it. -/
theorem findIdx_bytes_append (ascii : d.toNat < 128) (absent : d ∉ s.toList) :
    (bytes s ++ bytes t).findIdx (· == d.toUInt8) =
      (bytes s).length + (bytes t).findIdx (· == d.toUInt8) := by
  have none : (bytes s).findIdx (· == d.toUInt8) = (bytes s).length := by
    rw [List.findIdx_eq_length]
    intro b mem
    rw [beq_eq_false_iff_ne]
    rintro rfl
    exact absent (mem_of_mem_bytes ascii mem)
  rw [List.findIdx_append, none, if_neg (Nat.lt_irrefl _), Nat.add_comm]

theorem findIdx_bytes_of_head? (ascii : d.toNat < 128) (first : s.toList.head? = some d) :
    (bytes s).findIdx (· == d.toUInt8) = 0 := by
  obtain ⟨more, cut⟩ := List.head?_eq_some_iff.1 first
  have single : d.utf8Size = 1 := by
    rw [Char.utf8Size_eq_one_iff, UInt32.le_iff_toNat_le]
    exact Nat.le_of_lt_succ ascii
  rw [bytes_eq, cut, List.flatMap_cons, String.utf8EncodeChar_eq_singleton single]
  simp [List.findIdx_cons]

end

/-! ## Keys -/

section

variable {target key other : String} {fault : Fault}

theorem ofTarget_eq_ok_iff : ofTarget target = .ok key ↔ Keyed target key := by
  constructor
  · intro h
    obtain ⟨more, begins⟩ := List.head?_eq_some_iff.1 (head?_of_ofTarget h)
    rw [ofTarget, begins] at h
    cases h
    obtain ⟨slash, question⟩ := forall_not_endsSegment_iff.1 fun c (mem : c ∈ segment more) =>
      not_endsSegment_of_mem_segment mem
    refine ⟨String.ofList (afterSegment more), ?_, by simpa using slash, by simpa using question,
      ?_⟩
    · apply String.toList_inj.1
      simp [begins, segment_append_afterSegment]
    · exact boundary_iff.2 fun c first =>
        endsSegment_of_head?_afterSegment (by simpa using first)
  · rintro ⟨rest, rfl, slash, question, boundary⟩
    have begins : ("/" ++ key ++ rest).toList = '/' :: (key.toList ++ rest.toList) := by simp
    have free := forall_not_endsSegment_iff.2 ⟨slash, question⟩
    rw [ofTarget_slash (by rw [begins]; rfl), begins, List.tail_cons,
      segment_append free (boundary_iff.1 boundary), String.ofList_toList]

theorem Keyed.unique (h : Keyed target key) (h' : Keyed target other) : key = other :=
  Except.ok.inj ((ofTarget_eq_ok_iff.2 h).symm.trans (ofTarget_eq_ok_iff.2 h'))

/-- Looking for each delimiter on its own finds the end of the key. -/
theorem Keyed.stop_eq (h : Keyed target key) : stop target = 1 + key.utf8ByteSize := by
  obtain ⟨rest, rfl, slash, question, boundary⟩ := h
  have behind : (bytes ("/" ++ key ++ rest)).drop 1 = bytes key ++ bytes rest := by
    rw [String.append_assoc, drop_bytes_slash, bytes_append]
  have nearer : min ((bytes rest).findIdx (· == '/'.toUInt8))
      ((bytes rest).findIdx (· == '?'.toUInt8)) = 0 := by
    rcases boundary with rfl | first | first
    · rfl
    · rw [findIdx_bytes_of_head? (by decide) first, Nat.zero_min]
    · rw [findIdx_bytes_of_head? (d := '?') (by decide) first, Nat.min_zero]
  rw [stop, behind, findIdx_bytes_append (by decide) slash,
    findIdx_bytes_append (by decide) question, Nat.add_min_add_left, nearer, length_bytes,
    Nat.add_zero]

/-- The key lies between two offsets at which characters meet. -/
theorem Keyed.cut (h : Keyed target key) :
    (⟨1⟩ : String.Pos.Raw).IsValid target ∧ (⟨stop target⟩ : String.Pos.Raw).IsValid target ∧
      (bytes target).extract 1 (stop target) = bytes key := by
  have ends := h.stop_eq
  obtain ⟨rest, rfl, -⟩ := h
  refine ⟨?_, ?_, ?_⟩
  · exact String.Pos.Raw.isValid_iff_exists_append.2
      ⟨"/", key ++ rest, String.append_assoc .., rfl⟩
  · refine String.Pos.Raw.isValid_iff_exists_append.2 ⟨"/" ++ key, rest, rfl, ?_⟩
    rw [ends]
    exact String.Pos.Raw.ext (String.utf8ByteSize_append (s := "/")).symm
  · rw [ends, List.extract_eq_take_drop, String.append_assoc, drop_bytes_slash, bytes_append,
      Nat.add_sub_cancel_left, ← length_bytes, List.take_left]

theorem ofTarget_eq_error_iff :
    ofTarget target = .error fault ↔
      target = "" ∧ fault = .badRequest "Empty query" ∨
        target ≠ "" ∧ target.toList.head? ≠ some '/' ∧
          fault = .badRequest (noSlashMessage target) := by
  by_cases empty : target = ""
  · simp [empty, ofTarget_empty, eq_comm]
  · by_cases slash : target.toList.head? = some '/'
    · simp [ofTarget_slash slash, empty, slash]
    · simp [ofTarget_noSlash empty slash, empty, slash, eq_comm]

theorem noSlashMessage_inj : noSlashMessage target = noSlashMessage other ↔ target = other := by
  unfold noSlashMessage
  rw [String.append_left_inj, String.append_right_inj, Text.Markup.escape_inj]

end

theorem byGrammar (target : String) : ByGrammar target where
  accepted _ := ofTarget_eq_ok_iff
  unique _ _ := Keyed.unique
  cut _ := Keyed.cut
  refused := by
    simp only [ofTarget_eq_error_iff]
    by_cases empty : target = "" <;> simp [empty]
  blamed fault refused := by
    rcases ofTarget_eq_error_iff.1 refused with empty | ⟨nonempty, -, reason⟩
    · exact .inl empty
    · exact .inr ⟨nonempty, Text.Markup.inert_escape target, reason⟩
  told _ := noSlashMessage_inj

end RoutingKey

/-! ## Commands -/

theorem Work.meet_without (setup : Setup) (name : String) (now : UInt64) (w : Work)
    (e : Encounter) : w.meet (setup.without name) now e = w.meet setup now e := by
  cases e with
  | command c => cases c <;> rfl
  | _ => rfl

section

variable {setup : Setup} {request : Http.Request} {c : Command}

theorem meets_command_iff_keyed (known : c ∈ setup.table.commands) :
    Meets setup request (.command c) ↔
      request.isChunked = false ∧ RoutingKey.Keyed request.uri c.name := by
  rw [meets_command_iff, RoutingKey.ofTarget_eq_ok_iff]
  exact and_iff_right known

/-- Without a command that it does not meet a request meets the same. -/
theorem Meets.without {e : Encounter} (known : c ∈ setup.table.commands)
    (other : ¬ Meets setup request (.command c)) (h : Meets setup request e) :
    Meets (setup.without c.name) request e := by
  cases h with
  | chunked chunked => exact .chunked chunked
  | empty plain empty => exact .empty plain empty
  | noSlash plain nonempty noSlash => exact .noSlash plain nonempty noSlash
  | unknownKey plain key unknown =>
    exact .unknownKey plain key fun d mem => unknown d (List.mem_of_mem_filter mem)
  | @command d plain key mem =>
    have apart : d.name ≠ c.name := by
      intro same
      rw [← List.inj_on_of_nodup_map setup.table.nodup mem known same] at other
      exact other (.command plain key mem)
    exact .command plain key (List.mem_filter.2 ⟨mem, by simpa using apart⟩)

theorem Meets.unknownKey_without (h : Meets setup request (.command c)) :
    Meets (setup.without c.name) request .unknownKey := by
  obtain ⟨-, plain, key⟩ := meets_command_iff.1 h
  refine .unknownKey plain key fun d mem => ?_
  simpa using (List.mem_filter.1 mem).2

variable (clock : Clock) (state : State) (conn : Handle)

/-- A command that is not run makes no difference. -/
theorem dispatch_eq_without (known : c ∈ setup.table.commands)
    (other : ¬ Meets setup request (.command c)) :
    dispatch setup clock state request conn =
      dispatch (setup.without c.name) clock state request conn := by
  obtain ⟨e, met⟩ := exists_meets setup request
  rw [dispatch_of_meets met, dispatch_of_meets (met.without known other), Work.meet_without]

/-- A command that is run makes a difference: without it the journal tells that there
is no such command. -/
theorem dispatch_ne_without (h : Meets setup request (.command c)) :
    dispatch setup clock state request conn ≠
      dispatch (setup.without c.name) clock state request conn := by
  intro same
  have told := told_dispatch setup clock state request conn
  have missing := (told_dispatch (setup.without c.name) clock state request conn).unknownKey.2
    h.unknownKey_without
  rw [← same, told.unknownKey] at missing
  cases missing.eq_command h

end

/-! ## Main result -/

/-- Routing keys go by the grammar, and commands by the keys. A command of the table is
run for the requests that are not chunked and whose target is a slash, the name of the
command, and nothing or a delimiter with what follows it. To any other request it makes
no difference whether the command is on the table; so it makes none at all where the
name holds a delimiter. -/
theorem routed_by_grammar :
    (∀ target, RoutingKey.ByGrammar target) ∧
      ∀ (setup : Setup), ∀ c ∈ setup.table.commands, ∀ clock state request conn,
        let outcome := dispatch setup clock state request conn
        let without := dispatch (setup.without c.name) clock state request conn
        let asked := request.isChunked = false ∧ RoutingKey.Keyed request.uri c.name
        (asked →
          let start : Work := { exchange := { request, conn }, state }
          let (w, verdict) := start.complete setup clock.now c
          outcome = (w.settle clock verdict).finish clock.elapsed) ∧
        (outcome ≠ without ↔ asked) ∧
        ('/' ∈ c.name.toList ∨ '?' ∈ c.name.toList → outcome = without) := by
  refine ⟨RoutingKey.byGrammar, ?_⟩
  intro setup c known clock state request conn outcome without asked
  have met_iff : Meets setup request (.command c) ↔ asked := meets_command_iff_keyed known
  have differs : outcome ≠ without ↔ asked := by
    rw [← met_iff]
    refine ⟨fun ne => ?_, dispatch_ne_without clock state conn⟩
    by_contra other
    exact ne (dispatch_eq_without clock state conn known other)
  refine ⟨fun is => dispatch_of_meets (met_iff.2 is) clock state conn, differs, fun delimited => ?_⟩
  by_contra ne
  obtain ⟨-, rest, -, slash, question, -⟩ := differs.1 ne
  exact delimited.elim slash question

/-- The example daemon with two more scripts. The name of one is not in ASCII, and that
of the other holds a delimiter. -/
def exNames : Setup :=
  { exSetup with
    table := ⟨[.version, .script "größe" [.plain "found"], .script "a?b" [.plain "hidden"]],
      by decide⟩ }

/-- The key of a target is found across characters of two bytes. The command of that
name is run, and the one that a target would have to spell with a question mark is not. -/
theorem routed_by_grammar_exNames :
    let found := exGet "/größe/a?b"
    let hidden : Http.Request := ⟨"GET", ⟨none, "", "/a", some "b"⟩, [], ""⟩
    let state := State.initial []
    RoutingKey.Keyed "/größe/a?b" "größe" ∧
      RoutingKey.ofTarget "/größe/a?b" = .ok "größe" ∧
      RoutingKey.stop "/größe/a?b" = 8 ∧
      (RoutingKey.bytes "/größe/a?b").extract 1 8 = RoutingKey.bytes "größe" ∧
      Command.script "größe" [.plain "found"] ∈ exNames.table.commands ∧
      Command.script "a?b" [.plain "hidden"] ∈ exNames.table.commands ∧
      dispatch exNames exClock state found exConn ≠
        dispatch (exNames.without "größe") exClock state found exConn ∧
      dispatch exNames exClock state hidden exConn =
        dispatch (exNames.without "a?b") exClock state hidden exConn := by
  intro found hidden state
  obtain ⟨grammar, routed⟩ := routed_by_grammar
  have keyed : RoutingKey.Keyed "/größe/a?b" "größe" :=
    ⟨"/a?b", by decide, by decide, by decide, .inr (.inl rfl)⟩
  have stop : RoutingKey.stop "/größe/a?b" = 8 := by decide +kernel
  have known : Command.script "größe" [.plain "found"] ∈ exNames.table.commands := by decide
  have known' : Command.script "a?b" [.plain "hidden"] ∈ exNames.table.commands := by decide
  obtain ⟨-, runs, -⟩ := routed exNames _ known exClock state found exConn
  obtain ⟨-, -, same⟩ := routed exNames _ known' exClock state hidden exConn
  have cut := ((grammar "/größe/a?b").cut _ keyed).2.2
  rw [stop] at cut
  exact ⟨keyed, ((grammar _).accepted _).2 keyed, stop, cut, known, known',
    runs.2 ⟨rfl, keyed⟩, same (.inr (by decide))⟩

end AdminPort
