import AdminPort.Connection.Watch
import Mathlib.Data.List.Nodup
import Mathlib.Data.List.Range

/-!
# Who is connected

What becomes of the connection registry over any course of calls, together with
all that outlives a call: the guards that were given out, the watches that wait
for the closing, and the journal.

A connection stays open until its guard is dropped or the registry is closed for
the first time, whichever comes first, so what is open can be told from the
history alone. A guard may outlive its connection; dropping it then does nothing.

Results:
1. `connections_after`: what a history leaves open, of the connections before it and its own.
2. `mem_standing_iff`: an opened connection stands if nothing later ends it.
3. `accounted_run`: the whole account of the registry after any history.
-/

namespace AdminPort.Registry

/-! ## Definitions -/

/-- A call on a registry, or on what it gave out. -/
inductive Op where
  | connect (peer : Option Address)
  /-- The guard of a connection is dropped. -/
  | drop (guard : Handle)
  | closeAll
  /-- A wait for the closing begins. -/
  | watch
  /-- A look at the watch of a number, counted from 0 in the order they began. -/
  | poll (n : Nat)
deriving DecidableEq, Repr

/-- The peer of a connection that is opened. -/
def Op.peer? : Op → Option (Option Address)
  | connect peer => some peer
  | _ => none

/-- The registry after a call. Watches only look at it. -/
def step (r : Registry) : Op → Registry
  | .connect peer => (r.register peer).1
  | .drop guard => r.drop guard
  | .closeAll => r.closeAll.1
  | .watch | .poll _ => r

/-- The registry after calls in order. -/
def after (r : Registry) (ops : List Op) : Registry := ops.foldl step r

/-- A registry with all that outlives a call on it. -/
structure Session where
  registry : Registry
  /-- The guards that were given out, in order. -/
  guards : List Handle
  /-- The watches that began, in order. -/
  watches : List Watch
  journal : List Journal.Entry
deriving DecidableEq, Repr

/-- The session after a call. -/
def Session.step (s : Session) : Op → Session
  | .connect peer =>
    let (registry, guard) := s.registry.register peer
    { s with registry, guards := s.guards ++ [guard] }
  | .drop guard => { s with registry := s.registry.drop guard }
  | .closeAll =>
    let (registry, closed) := s.registry.closeAll
    { s with registry, journal := s.journal ++ closed }
  | .watch => { s with watches := s.watches ++ [.waiting] }
  | .poll n => { s with watches := s.watches.modify n fun w => (Watch.poll s.registry w).1 }

/-- The session after calls in order, from the start. -/
def run (ops : List Op) : Session := ops.foldl Session.step ⟨.empty, [], [], []⟩

/-- The peers of the connections opened in a history, in order. -/
def peers (past : List Op) : List (Option Address) := past.filterMap Op.peer?

/-- The number of connections opened in a history. -/
def opens (past : List Op) : Nat := (peers past).length

/-- The number of watches begun in a history. -/
def begun (past : List Op) : Nat := past.count .watch

/-- `Held past guard`: the guard was given out in the history, to the connection of
its number and peer, and was not dropped since. -/
def Held (past : List Op) (guard : Handle) : Prop :=
  ∃ before later, past = before ++ .connect guard.peer :: later ∧
    guard.id.toNat = opens before + 1 ∧ ∀ other, .drop other ∈ later → other.id ≠ guard.id

/-- `FirstClosing past before`: the first closing in the history came after `before`. -/
def FirstClosing (past before : List Op) : Prop :=
  .closeAll ∉ before ∧ before ++ [.closeAll] <+: past

/-- `Looked past n`: the watch of the number has been looked at since the closing. -/
def Looked (past : List Op) (n : Nat) : Prop :=
  ∃ before, before ++ [.poll n] <+: past ∧ .closeAll ∈ before ∧ n < begun before

/-- `Accounted past`: the registry after a history is as the history tells.

* `peers`, `numbers`: the guards carry the peers they were opened with and are
  numbered from 1, so no two have one number.
* `open_iff`, `inOrder`: open are the connections whose guards are held, but those
  that were open at the first closing; none of them twice.
* `dropped`, `stale`: dropping a guard takes away the entry of that guard and no
  other, and changes nothing when that entry is gone.
* `established`, `closing`: the opened connections are counted, and the registry
  is closing from the first closing on, whatever comes later.
* `silent`, `announced`, `closedOnce`: only the first closing is written down,
  with the number of connections open just before, and it alone changes anything.
* `watches`: a look at a watch, whenever it began, finds it pending until the
  first closing, and the first look after that finds it ready. -/
structure Accounted (past : List Op) : Prop where
  peers : (run past).guards.map (·.peer) = peers past
  numbers : (run past).guards.map (·.id.toNat) = List.range' 1 (opens past)
  distinct : ((run past).guards.map (·.id)).Nodup
  open_iff : ∀ guard, guard ∈ (run past).registry.connections ↔
    Held past guard ∧ ∀ before, FirstClosing past before → ¬ Held before guard
  inOrder : (run past).registry.connections.Sublist (run past).guards
  dropped : ∀ guard ∈ (run past).guards, run (past ++ [.drop guard]) =
    { run past with
      registry :=
        { (run past).registry with
          connections := (run past).registry.connections.filter (· ≠ guard) } }
  stale : ∀ guard ∈ (run past).guards, guard ∉ (run past).registry.connections →
    run (past ++ [.drop guard]) = run past
  established : (run past).registry.established.toNat = opens past
  closing : (run past).registry.closing = true ↔ .closeAll ∈ past
  stays : (run past).registry.closing = true → ∀ later,
    (run (past ++ later)).registry.closing = true
  silent : .closeAll ∉ past → (run past).journal = []
  announced : ∀ before, FirstClosing past before →
    (run past).journal = [.closingConnections (run before).registry.size]
  closedOnce : .closeAll ∈ past → run (past ++ [.closeAll]) = run past
  watches : ∀ n < begun past, ∃ watch, (run past).watches[n]? = some watch ∧
    ((Watch.poll (run past).registry watch).2 = .pending ↔ .closeAll ∉ past) ∧
    ((Watch.poll (run past).registry watch).2 = .ready ↔ .closeAll ∈ past ∧ ¬ Looked past n)

/-! ## Counting -/

section

variable (ops later : List Op)

@[simp]
theorem peers_append : peers (ops ++ later) = peers ops ++ peers later := List.filterMap_append

@[simp]
theorem opens_append : opens (ops ++ later) = opens ops + opens later := by simp [opens]

@[simp]
theorem opens_nil : opens [] = 0 := rfl

@[simp]
theorem opens_connect (peer : Option Address) : opens (.connect peer :: ops) = opens ops + 1 := rfl

@[simp]
theorem opens_drop (guard : Handle) : opens (.drop guard :: ops) = opens ops := rfl

@[simp]
theorem opens_closeAll : opens (.closeAll :: ops) = opens ops := rfl

@[simp]
theorem opens_watch : opens (.watch :: ops) = opens ops := rfl

@[simp]
theorem opens_poll (n : Nat) : opens (.poll n :: ops) = opens ops := rfl

theorem opens_le_of_prefix {ops later : List Op} (h : ops <+: later) : opens ops ≤ opens later :=
  (h.filterMap _).length_le

end

/-! ## The registry -/

/-- Whether calls leave a connection open, in a registry that is closing or not. -/
def leaves (closing : Bool) (ops : List Op) (conn : Handle) : Bool :=
  ops.all (fun op => match op with
    | .drop guard => guard.id != conn.id
    | _ => true) && (closing || !ops.contains .closeAll)

/-- The connections that calls open and leave open, in a registry that has given
out `n` numbers so far and is closing or not. -/
def standing : UInt64 → Bool → List Op → List Handle
  | _, _, [] => []
  | n, closing, .connect peer :: rest =>
    if leaves closing rest ⟨n + 1, peer⟩ then
      ⟨n + 1, peer⟩ :: standing (n + 1) closing rest
    else standing (n + 1) closing rest
  | n, _, .closeAll :: rest => standing n true rest
  | n, closing, _ :: rest => standing n closing rest

section

variable (closing : Bool) (rest : List Op) (conn : Handle)

@[simp]
theorem leaves_nil : leaves closing [] conn = true := by simp [leaves]

@[simp]
theorem leaves_connect (peer : Option Address) :
    leaves closing (.connect peer :: rest) = leaves closing rest := rfl

@[simp]
theorem leaves_drop (guard : Handle) :
    leaves closing (.drop guard :: rest) conn =
      (guard.id != conn.id && leaves closing rest conn) := by
  simp [leaves, Bool.and_assoc]

@[simp]
theorem leaves_closeAll :
    leaves closing (.closeAll :: rest) conn = (closing && leaves true rest conn) := by
  cases closing <;> simp [leaves]

@[simp]
theorem leaves_watch : leaves closing (.watch :: rest) = leaves closing rest := rfl

@[simp]
theorem leaves_poll (n : Nat) : leaves closing (.poll n :: rest) = leaves closing rest := rfl

theorem leaves_iff :
    leaves closing rest conn = true ↔
      (∀ guard, .drop guard ∈ rest → guard.id ≠ conn.id) ∧ (closing = true ∨ .closeAll ∉ rest) := by
  induction rest generalizing closing with
  | nil => simp
  | cons op rest ih =>
    cases op with
    | drop guard => simp [ih, and_assoc]
    | closeAll => cases closing <;> simp [ih]
    | _ => simp [ih]

end

/-- Calls leave open what they do not end of the connections before them, and what
they do not end of their own. -/
theorem connections_after (r : Registry) (ops : List Op) :
    (r.after ops).connections =
      r.connections.filter (leaves r.closing ops) ++ standing r.established r.closing ops := by
  induction ops generalizing r with
  | nil => simp [after, standing, List.filter_eq_self.2]
  | cons op rest ih =>
    rw [after, List.foldl_cons, ← after, ih]
    cases op with
    | connect peer =>
      simp only [step, register, nextId_eq, standing, List.filter_append, leaves_connect]
      by_cases stays : leaves r.closing rest ⟨r.established + 1, peer⟩ = true <;> simp [stays]
    | drop guard =>
      simp only [step, drop, standing, List.filter_filter]
      congr 2
      funext conn
      rw [leaves_drop, Bool.and_comm, bne_comm]
    | closeAll =>
      cases closing : r.closing with
      | true =>
        rw [step, closeAll_of_closing closing, standing, closing]
        rfl
      | false => simp [step, closeAll, closing, standing]
    | watch | poll => rfl

/-- A place in a history is its head or a place in the rest. -/
theorem exists_split_cons {op mid : Op} {rest : List Op} {p : List Op → List Op → Prop} :
    (∃ before later, op :: rest = before ++ mid :: later ∧ p before later) ↔
      (op = mid ∧ p [] rest) ∨
        ∃ before later, rest = before ++ mid :: later ∧ p (op :: before) later := by
  constructor
  · rintro ⟨before, later, same, h⟩
    cases before with
    | nil =>
      obtain ⟨rfl, rfl⟩ := List.cons.inj same
      exact .inl ⟨rfl, h⟩
    | cons first before =>
      obtain ⟨rfl, rfl⟩ := List.cons.inj same
      exact .inr ⟨before, later, rfl, h⟩
  · rintro (⟨rfl, h⟩ | ⟨before, later, rfl, h⟩)
    · exact ⟨[], rest, rfl, h⟩
    · exact ⟨op :: before, later, rfl, h⟩

/-- An opened connection stands if nothing later ends it. -/
theorem mem_standing_iff {n : UInt64} {closing : Bool} {ops : List Op} {conn : Handle} :
    conn ∈ standing n closing ops ↔
      ∃ before later, ops = before ++ .connect conn.peer :: later ∧
        conn.id = n + UInt64.ofNat (opens before) + 1 ∧
        leaves (closing || before.contains .closeAll) later conn = true := by
  induction ops generalizing n closing with
  | nil => simp [standing]
  | cons op rest ih =>
    rw [exists_split_cons]
    cases op with
    | connect peer =>
      have next : ∀ k : Nat, n + 1 + UInt64.ofNat k + 1 = n + UInt64.ofNat (k + 1) + 1 := by
        intro k
        rw [UInt64.ofNat_add]
        grind
      have later := @ih (n + 1) closing
      simp only [next] at later
      have here : Op.connect peer = .connect conn.peer ∧
          conn.id = n + UInt64.ofNat (opens []) + 1 ∧
            leaves (closing || [].contains Op.closeAll) rest conn = true ↔
          conn = ⟨n + 1, peer⟩ ∧ leaves closing rest ⟨n + 1, peer⟩ = true := by
        obtain ⟨id, own⟩ := conn
        constructor
        · rintro ⟨same, rfl, stays⟩
          cases same
          simpa using stays
        · rintro ⟨same, stays⟩
          cases same
          simpa using stays
      rw [here, standing]
      split
      · next stays => simp [later, stays]
      · next ends => simp [later, ends]
    | closeAll => simp [standing, ih]
    | drop | watch | poll => simp [standing, ih]

theorem length_standing_le (n : UInt64) (closing : Bool) (ops : List Op) :
    (standing n closing ops).length ≤ opens ops := by
  induction ops generalizing n closing with
  | nil => exact Nat.zero_le _
  | cons op rest ih =>
    cases op with
    | connect peer =>
      have later := ih (n + 1) closing
      rw [standing, opens_connect]
      split
      · exact Nat.succ_le_succ later
      · exact Nat.le_succ_of_le later
    | _ => exact ih _ _

theorem established_after (r : Registry) (ops : List Op) :
    (r.after ops).established = r.established + UInt64.ofNat (opens ops) := by
  induction ops generalizing r with
  | nil => simp [after]
  | cons op rest ih =>
    rw [after, List.foldl_cons, ← after, ih]
    cases op with
    | connect peer =>
      simp only [step, register, opens_connect, UInt64.ofNat_add]
      grind
    | closeAll => cases closing : r.closing <;> simp [step, closeAll, closing]
    | _ => rfl

theorem closing_after (r : Registry) (ops : List Op) :
    (r.after ops).closing = true ↔ r.closing = true ∨ .closeAll ∈ ops := by
  induction ops generalizing r with
  | nil => simp [after]
  | cons op rest ih =>
    rw [after, List.foldl_cons, ← after, ih]
    cases op with
    | closeAll => cases closing : r.closing <;> simp [step, closeAll, closing]
    | _ => simp [step, register, drop]

/-! ## Sessions -/

@[simp]
theorem run_nil : run [] = ⟨.empty, [], [], []⟩ := rfl

@[simp]
theorem run_concat (past : List Op) (op : Op) : run (past ++ [op]) = (run past).step op := by
  simp [run]

theorem registry_step (s : Session) (op : Op) : (s.step op).registry = s.registry.step op := by
  cases op <;> rfl

theorem registry_run (past : List Op) : (run past).registry = Registry.empty.after past := by
  induction past using List.reverseRecOn with
  | nil => rfl
  | append_singleton past op ih =>
    rw [run_concat, registry_step, ih, after, after, List.foldl_concat]

theorem closing_run (past : List Op) :
    (run past).registry.closing = true ↔ .closeAll ∈ past := by
  rw [registry_run, closing_after]
  simp [empty]

theorem established_run (past : List Op) :
    (run past).registry.established = UInt64.ofNat (opens past) := by
  rw [registry_run, established_after]
  simp [empty]

theorem peers_run (past : List Op) : (run past).guards.map (·.peer) = peers past := by
  induction past using List.reverseRecOn with
  | nil => rfl
  | append_singleton past op ih =>
    rw [run_concat, peers_append]
    cases op with
    | connect peer => simp [Session.step, register, ih, peers, Op.peer?]
    | _ => exact ih.trans (List.append_nil _).symm

/-- The guards are numbered in the order they were given out. -/
theorem ids_run (past : List Op) :
    (run past).guards.map (·.id) = (List.range' 1 (opens past)).map UInt64.ofNat := by
  induction past using List.reverseRecOn with
  | nil => rfl
  | append_singleton past op ih =>
    rw [run_concat, opens_append]
    cases op with
    | connect peer =>
      simp [Session.step, register, nextId_eq, ih, established_run, List.range'_concat,
        Nat.add_comm 1, UInt64.ofNat_add]
    | _ => simpa [Session.step] using ih

/-- Open connections are some of those that were given out, in the same order. -/
theorem connections_sublist_guards (past : List Op) :
    (run past).registry.connections.Sublist (run past).guards := by
  induction past using List.reverseRecOn with
  | nil => exact List.Sublist.refl _
  | append_singleton past op ih =>
    rw [run_concat]
    cases op with
    | connect peer => exact ih.append (List.Sublist.refl _)
    | drop guard => exact List.filter_sublist.trans ih
    | closeAll =>
      simp only [Session.step, closeAll]
      split
      · exact ih
      · exact List.nil_sublist _
    | watch | poll => exact ih

section

variable {past : List Op}

theorem toNat_ids_run (few : opens past < UInt64.size) :
    (run past).guards.map (·.id.toNat) = List.range' 1 (opens past) := by
  have ids := congrArg (List.map UInt64.toNat) (ids_run past)
  rw [List.map_map, List.map_map] at ids
  refine ids.trans ((List.map_congr_left fun n hn => ?_).trans (List.map_id _))
  obtain ⟨i, hi, rfl⟩ := List.mem_range'.1 hn
  exact UInt64.toNat_ofNat_of_lt' (by omega)

theorem nodup_ids_run (few : opens past < UInt64.size) : ((run past).guards.map (·.id)).Nodup := by
  have numbers : ((run past).guards.map (·.id.toNat)).Nodup := by
    rw [toNat_ids_run few]
    exact List.nodup_range'
  refine List.Nodup.of_map UInt64.toNat ?_
  rwa [List.map_map]

/-- No guard has a number beyond the connections opened. -/
theorem Held.id_le {guard : Handle} (h : Held past guard) : guard.id.toNat ≤ opens past := by
  obtain ⟨before, later, rfl, number, -⟩ := h
  simp [number]

/-- A connection that stands is held, and was opened after the first closing if there was one. -/
theorem mem_connections_iff (few : opens past < UInt64.size) {guard : Handle} :
    guard ∈ (run past).registry.connections ↔
      ∃ before later, past = before ++ .connect guard.peer :: later ∧
        guard.id.toNat = opens before + 1 ∧ (∀ other, .drop other ∈ later → other.id ≠ guard.id) ∧
        (.closeAll ∈ before ∨ .closeAll ∉ later) := by
  rw [registry_run, connections_after]
  simp only [empty, List.filter_nil, List.nil_append, mem_standing_iff, leaves_iff, Bool.false_or,
    List.contains_iff_mem]
  refine exists_congr fun before => exists_congr fun later => and_congr_right fun same => ?_
  refine and_congr ?_ Iff.rfl
  have bound : opens before + 1 < UInt64.size := by
    have := congrArg opens same
    simp at this
    omega
  have number : (0 + UInt64.ofNat (opens before) + 1).toNat = opens before + 1 := by
    rw [UInt64.zero_add, UInt64.toNat_add, UInt64.toNat_ofNat_of_lt' (by omega)]
    exact Nat.mod_eq_of_lt bound
  rw [← UInt64.toNat_inj, number]

theorem mem_connections_iff_held (few : opens past < UInt64.size) {guard : Handle} :
    guard ∈ (run past).registry.connections ↔
      Held past guard ∧ ∀ before, FirstClosing past before → ¬ Held before guard := by
  rw [mem_connections_iff few]
  constructor
  · rintro ⟨before, later, rfl, number, kept, spared⟩
    refine ⟨⟨before, later, rfl, number, kept⟩, ?_⟩
    rintro cut ⟨first, cutPrefix⟩ held
    have closed : .closeAll ∈ before := by
      have inPast := cutPrefix.subset (List.mem_append_right cut (List.mem_singleton_self _))
      rcases List.mem_append.1 inPast with inBefore | inLater
      · exact inBefore
      · exact spared.resolve_right (by simpa using inLater)
    -- the first closing came before this connection, whose number is then too high
    rcases List.prefix_or_prefix_of_prefix (List.prefix_append before _)
      ((List.prefix_append cut _).trans cutPrefix) with shorter | longer
    · exact first (shorter.subset closed)
    · have := opens_le_of_prefix longer
      have := held.id_le
      omega
  · rintro ⟨⟨before, later, rfl, number, kept⟩, uncut⟩
    refine ⟨before, later, rfl, number, kept, ?_⟩
    by_contra cut
    obtain ⟨notBefore, inLater⟩ : .closeAll ∉ before ∧ .closeAll ∈ later := by simpa using cut
    obtain ⟨early, rest, rfl, notEarly⟩ := List.eq_append_cons_of_mem inLater
    refine uncut (before ++ .connect guard.peer :: early) ⟨by simp [notBefore, notEarly], ?_⟩ ?_
    · exact ⟨rest, by simp⟩
    · exact ⟨before, early, rfl, number, fun other h => kept other (List.mem_append_left _ h)⟩

/-- A guard that was given out is known by its number among those that were. -/
theorem eq_of_id_eq (few : opens past < UInt64.size) {a b : Handle} (ha : a ∈ (run past).guards)
    (hb : b ∈ (run past).guards) (same : a.id = b.id) : a = b :=
  List.inj_on_of_nodup_map (nodup_ids_run few) ha hb same

/-- Dropping a guard takes away its own entry only. -/
theorem filter_id_ne (few : opens past < UInt64.size) {guard : Handle}
    (given : guard ∈ (run past).guards) :
    (run past).registry.connections.filter (·.id != guard.id) =
      (run past).registry.connections.filter (· ≠ guard) := by
  refine List.filter_congr fun conn mem => ?_
  have other := (connections_sublist_guards past).subset mem
  by_cases same : conn = guard
  · simp [same]
  · have : conn.id ≠ guard.id := fun h => same (eq_of_id_eq few other given h)
    simp [same, this]

/-! ## Closing -/

theorem closeAll_mem_of_firstClosing {before : List Op} (h : FirstClosing past before) :
    .closeAll ∈ past :=
  h.2.subset (List.mem_append_right before (List.mem_singleton_self _))

theorem firstClosing_concat_iff {before : List Op} {op : Op} :
    FirstClosing (past ++ [op]) before ↔
      FirstClosing past before ∨ op = .closeAll ∧ .closeAll ∉ past ∧ before = past := by
  simp only [FirstClosing, List.prefix_concat_iff]
  constructor
  · rintro ⟨first, same | shorter⟩
    · obtain ⟨rfl, last⟩ := List.append_inj' same rfl
      exact .inr ⟨(List.singleton_inj.1 last).symm, first, rfl⟩
    · exact .inl ⟨first, shorter⟩
  · rintro (⟨first, shorter⟩ | ⟨rfl, first, rfl⟩)
    · exact ⟨first, .inr shorter⟩
    · exact ⟨first, .inl rfl⟩

theorem closeAll_run_of_mem (closed : .closeAll ∈ past) : run (past ++ [.closeAll]) = run past := by
  rw [run_concat, Session.step, closeAll_of_closing ((closing_run past).2 closed)]
  simp

theorem journal_run_of_open (notYet : .closeAll ∉ past) : (run past).journal = [] := by
  induction past using List.reverseRecOn with
  | nil => rfl
  | append_singleton past op ih =>
    rw [run_concat]
    cases op with
    | closeAll => simp at notYet
    | _ => exact ih (by simpa using notYet)

/-- The first closing writes down how many connections were open just before it. -/
theorem journal_run {before : List Op} (h : FirstClosing past before) :
    (run past).journal = [.closingConnections (run before).registry.size] := by
  induction past using List.reverseRecOn with
  | nil => simpa using closeAll_mem_of_firstClosing h
  | append_singleton past op ih =>
    rcases firstClosing_concat_iff.1 h with earlier | ⟨rfl, notYet, rfl⟩
    · have closed := closeAll_mem_of_firstClosing earlier
      rw [← ih earlier]
      cases op with
      | closeAll => rw [closeAll_run_of_mem closed]
      | _ => rw [run_concat]; rfl
    · have isOpen : (run before).registry.closing = false :=
        Bool.eq_false_iff.2 (mt (closing_run before).1 notYet)
      simp [Session.step, closeAll, isOpen, journal_run_of_open notYet]

/-! ## Watches -/

theorem length_watches_run (past : List Op) : (run past).watches.length = begun past := by
  induction past using List.reverseRecOn with
  | nil => rfl
  | append_singleton past op ih =>
    rw [run_concat]
    cases op <;> simp_all [Session.step, begun, List.count_append]

theorem looked_concat_iff {n : Nat} {op : Op} :
    Looked (past ++ [op]) n ↔
      Looked past n ∨ op = .poll n ∧ .closeAll ∈ past ∧ n < begun past := by
  simp only [Looked, List.prefix_concat_iff]
  constructor
  · rintro ⟨before, same | shorter, closed, started⟩
    · obtain ⟨rfl, last⟩ := List.append_inj' same rfl
      exact .inr ⟨(List.singleton_inj.1 last).symm, closed, started⟩
    · exact .inl ⟨before, shorter, closed, started⟩
  · rintro (⟨before, shorter, closed, started⟩ | ⟨rfl, closed, started⟩)
    · exact ⟨before, .inr shorter, closed, started⟩
    · exact ⟨past, .inl rfl, closed, started⟩

/-- A watch has ended once it has been looked at since the closing, and not before. -/
theorem ended_iff_looked {n : Nat} :
    (run past).watches[n]? = some .ended ↔ Looked past n := by
  induction past using List.reverseRecOn with
  | nil => simp [Looked]
  | append_singleton past op ih =>
    rw [run_concat, looked_concat_iff, ← ih]
    cases op with
    | watch =>
      have waits : ∀ k : Nat, [Watch.waiting][k]? ≠ some Watch.ended := by
        intro k
        cases k <;> simp
      simp only [Session.step, List.getElem?_append, reduceCtorEq, false_and, or_false]
      split
      · rfl
      · next beyond =>
        simp [waits, List.getElem?_eq_none (Nat.le_of_not_lt beyond)]
    | poll m =>
      simp only [Session.step, List.getElem?_modify, Op.poll.injEq]
      by_cases same : m = n
      · subst same
        rw [← length_watches_run, ← closing_run]
        cases at_m : (run past).watches[m]? with
        | none =>
          have beyond := List.getElem?_eq_none_iff.1 at_m
          simp [Nat.not_lt.2 beyond]
        | some watch =>
          have started : m < (run past).watches.length := (List.getElem?_eq_some_iff.1 at_m).1
          cases watch with
          | ended => simp [Watch.poll]
          | waiting =>
            cases closing : (run past).registry.closing <;> simp [Watch.poll, closing, started]
      · simp [same]
    | _ => simp [Session.step]

/-- What a look at a watch finds. -/
theorem found_run {n : Nat} (started : n < begun past) :
    ∃ watch, (run past).watches[n]? = some watch ∧
      ((Watch.poll (run past).registry watch).2 = .pending ↔ .closeAll ∉ past) ∧
      ((Watch.poll (run past).registry watch).2 = .ready ↔ .closeAll ∈ past ∧ ¬ Looked past n) := by
  rw [← length_watches_run] at started
  refine ⟨(run past).watches[n], List.getElem?_eq_getElem started, ?_⟩
  rw [← ended_iff_looked, List.getElem?_eq_getElem started, ← closing_run]
  have ended : (run past).watches[n] = .ended → (run past).registry.closing = true := by
    intro same
    obtain ⟨before, shorter, closed, -⟩ :=
      ended_iff_looked.1 ((List.getElem?_eq_getElem started).trans (congrArg some same))
    exact (closing_run past).2 ((List.prefix_append before _).trans shorter |>.subset closed)
  cases found : (run past).watches[n] with
  | ended => simp [Watch.poll, ended found]
  | waiting => cases closing : (run past).registry.closing <;> simp [Watch.poll_waiting, closing]

end

/-! ## The account -/

/-- After any history of fewer openings than there are numbers, the registry, the
guards, the journal and the watches are as the history tells. -/
theorem accounted_run (past : List Op) (few : opens past < UInt64.size) : Accounted past where
  peers := peers_run past
  numbers := toNat_ids_run few
  distinct := nodup_ids_run few
  open_iff _ := mem_connections_iff_held few
  inOrder := connections_sublist_guards past
  dropped guard given := by
    rw [run_concat, Session.step, drop, filter_id_ne few given]
  stale guard given gone := by
    have all : (run past).registry.connections.filter (· ≠ guard) =
        (run past).registry.connections :=
      List.filter_eq_self.2 fun conn mem => by
        have : conn ≠ guard := fun same => gone (same ▸ mem)
        simpa using this
    rw [run_concat, Session.step, drop, filter_id_ne few given, all]
  established := by
    rw [established_run, UInt64.toNat_ofNat_of_lt' few]
  closing := closing_run past
  stays closing later := by
    rw [closing_run] at closing ⊢
    exact List.mem_append_left later closing
  silent := journal_run_of_open
  announced _ := journal_run
  closedOnce := closeAll_run_of_mem
  watches _ := found_run

/-- Two connections are open when the registry closes; a third one comes later and
survives the second closing, and so it does the drop of a guard that outlived its
own connection. The watch is looked at before and after the first closing. -/
def exOps : List Op :=
  [.watch, .connect none, .connect none, .poll 0, .closeAll, .poll 0, .connect none,
    .drop ⟨1, none⟩, .closeAll]

theorem accounted_run_exOps :
    opens exOps < UInt64.size ∧ Accounted exOps ∧
      (run exOps).registry.connections = [⟨3, none⟩] ∧
      (run exOps).journal = [.closingConnections 2] ∧ (run exOps).watches = [.ended] := by
  have few : opens exOps < UInt64.size := by decide
  exact ⟨few, accounted_run exOps few, by decide, by decide, by decide⟩

end AdminPort.Registry
