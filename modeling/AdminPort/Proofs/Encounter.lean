import Mathlib.Data.List.Nodup
import AdminPort.Dispatch

/-!
# What a request meets

Before anything is done for a request it comes upon one of four things: the
guard against chunked bodies, a target without a routing key, a routing key that
no command has, or a command. `Meets` says which, without the order in which the
daemon looks for them; a dispatch goes by what its request meets and by nothing
else.

Results:
1. `find?_eq_some_iff`: a routing key finds exactly the command of that name.
2. `exists_meets`, `Meets.eq_command`: every request meets something, and a command only alone.
3. `dispatch_of_meets`: a dispatch goes by what its request meets.
-/

namespace AdminPort

/-! ## Definitions -/

/-- What a request comes upon before anything is done for it. -/
inductive Encounter where
  /-- The guard against chunked requests. -/
  | chunked
  /-- A target without a routing key, and what is said about it. -/
  | noKey (reason : String)
  /-- A routing key that no command has. -/
  | unknownKey
  /-- The command with the routing key. -/
  | command (c : Command)
deriving DecidableEq, Repr

/-- `Meets setup request e`: under the setup, `e` is what the request meets.

* `chunked`: the guard comes first, whatever the target is.
* `empty`, `noSlash`: only a target that begins with a slash has a routing key.
* `unknownKey`, `command`: commands are known by their names, and nothing but
  the routing key is held against them. -/
inductive Meets (setup : Setup) (request : Http.Request) : Encounter → Prop
  | chunked : request.isChunked = true → Meets setup request .chunked
  | empty : request.isChunked = false → request.uri = "" →
      Meets setup request (.noKey "Empty query")
  | noSlash : request.isChunked = false → request.uri ≠ "" →
      request.uri.toList.head? ≠ some '/' →
      Meets setup request (.noKey (RoutingKey.noSlashMessage request.uri))
  | unknownKey {key : String} : request.isChunked = false →
      RoutingKey.ofTarget request.uri = .ok key →
      (∀ c ∈ setup.table.commands, c.name ≠ key) → Meets setup request .unknownKey
  | command {c : Command} : request.isChunked = false →
      RoutingKey.ofTarget request.uri = .ok c.name → c ∈ setup.table.commands →
      Meets setup request (.command c)

/-- The way of a request from what it meets to a verdict. -/
def Work.meet (setup : Setup) (now : UInt64) (w : Work) : Encounter → Work × Verdict
  | .chunked =>
    (w.note [.chunkedRefused w.exchange.conn w.exchange.uri],
      .failed (.badRequest "Chunked request not supported."))
  | .noKey reason => (w, .failed (.badRequest reason))
  | .unknownKey => (w, .noSuchCommand)
  | .command c => w.complete setup now c

/-! ## Routing keys -/

namespace RoutingKey

theorem ofTarget_empty : ofTarget "" = .error (.badRequest "Empty query") := rfl

theorem ofTarget_noSlash {target : String} (nonempty : target ≠ "")
    (noSlash : target.toList.head? ≠ some '/') :
    ofTarget target = .error (.badRequest (noSlashMessage target)) := by
  unfold ofTarget
  split
  · next h => exact absurd (String.toList_eq_nil_iff.1 h) nonempty
  · next h => simp [h] at noSlash
  · rfl

theorem ofTarget_slash {target : String} (slash : target.toList.head? = some '/') :
    ofTarget target = .ok (String.ofList (segment target.toList.tail)) := by
  obtain ⟨rest, h⟩ := List.head?_eq_some_iff.1 slash
  simp [ofTarget, h]

/-- A target with a routing key begins with a slash. -/
theorem head?_of_ofTarget {target key : String} (h : ofTarget target = .ok key) :
    target.toList.head? = some '/' := by
  unfold ofTarget at h
  split at h
  · cases h
  · next same => simp [same]
  · cases h

end RoutingKey

namespace Table

theorem find?_eq_some_iff {t : Table} {key : String} {c : Command} :
    t.find? key = some c ↔ c ∈ t.commands ∧ c.name = key := by
  constructor
  · exact mem_of_find?
  · rintro ⟨mem, rfl⟩
    cases found : t.find? c.name with
    | none =>
      rw [find?, List.find?_eq_none] at found
      exact absurd (beq_self_eq_true c.name) (found c mem)
    | some d =>
      obtain ⟨other, name⟩ := mem_of_find? found
      rw [List.inj_on_of_nodup_map t.nodup other mem name]

theorem find?_eq_none_iff {t : Table} {key : String} :
    t.find? key = none ↔ ∀ c ∈ t.commands, c.name ≠ key := by
  simp [find?, List.find?_eq_none]

end Table

/-! ## Every request meets something -/

section

variable {setup : Setup} {request : Http.Request}

theorem exists_meets (setup : Setup) (request : Http.Request) :
    ∃ e, Meets setup request e := by
  cases plain : request.isChunked with
  | true => exact ⟨_, .chunked plain⟩
  | false =>
    by_cases empty : request.uri = ""
    · exact ⟨_, .empty plain empty⟩
    by_cases slash : request.uri.toList.head? = some '/'
    · have key := RoutingKey.ofTarget_slash slash
      generalize String.ofList (RoutingKey.segment request.uri.toList.tail) = k at key
      by_cases known : ∃ c ∈ setup.table.commands, c.name = k
      · obtain ⟨c, mem, rfl⟩ := known
        exact ⟨_, .command plain key mem⟩
      · exact ⟨_, .unknownKey plain key fun c mem name => known ⟨c, mem, name⟩⟩
    · exact ⟨_, .noSlash plain empty slash⟩

/-- The way of a request goes by what it meets. -/
theorem Meets.route {e : Encounter} (h : Meets setup request e) (now : UInt64) (w : Work)
    (same : w.exchange.request = request) : w.route setup now = w.meet setup now e := by
  subst same
  unfold Work.route Work.meet
  cases h with
  | chunked chunked => simp [chunked]
  | empty plain empty => simp [plain, Exchange.uri, empty, RoutingKey.ofTarget_empty]
  | noSlash plain nonempty noSlash =>
    simp [plain, Exchange.uri, RoutingKey.ofTarget_noSlash nonempty noSlash]
  | unknownKey plain key unknown =>
    simp [plain, Exchange.uri, key, Table.find?_eq_none_iff.2 unknown]
  | command plain key mem =>
    simp [plain, Exchange.uri, key, Table.find?_eq_some_iff.2 ⟨mem, rfl⟩]

theorem meets_command_iff {c : Command} :
    Meets setup request (.command c) ↔
      c ∈ setup.table.commands ∧ request.isChunked = false ∧
        RoutingKey.ofTarget request.uri = .ok c.name := by
  constructor
  · rintro (_ | _ | _ | _ | ⟨plain, key, mem⟩)
    exact ⟨mem, plain, key⟩
  · rintro ⟨mem, plain, key⟩
    exact .command plain key mem

instance (c : Command) : Decidable (Meets setup request (.command c)) :=
  decidable_of_iff _ meets_command_iff.symm

/-- A request that meets a command meets nothing else. -/
theorem Meets.eq_command {e : Encounter} {c : Command} (h : Meets setup request e)
    (met : Meets setup request (.command c)) : e = .command c := by
  obtain ⟨mem, plain, key⟩ := meets_command_iff.1 met
  have slash := RoutingKey.head?_of_ofTarget key
  -- the routing key rules out the refusals, and distinct names leave one command
  cases h with
  | chunked chunked => simp [plain] at chunked
  | empty _ empty => simp [empty] at slash
  | noSlash _ _ noSlash => exact absurd slash noSlash
  | unknownKey _ other unknown =>
    cases key.symm.trans other
    exact absurd rfl (unknown c mem)
  | command _ other mem' =>
    have name : c.name = _ := Except.ok.inj (key.symm.trans other)
    rw [List.inj_on_of_nodup_map setup.table.nodup mem mem' name]

theorem dispatch_of_meets {e : Encounter} (h : Meets setup request e) (clock : Clock)
    (state : State) (conn : Handle) :
    dispatch setup clock state request conn =
      (let (w, verdict) :=
        ({ exchange := { request, conn }, state } : Work).meet setup clock.now e
      (w.settle clock verdict).finish clock.elapsed) := by
  rw [dispatch, h.route _ _ rfl]

end

/-! ## An example daemon (used by the concrete runs) -/

/-- The built-in commands and two scripts: "late" replies and then panics, "mute"
never replies. The text protocol panics when it is asked for its statistics. -/
def exSetup : Setup where
  table :=
    ⟨[.shutdown, .stats, .version, .script "late" [.plain "so far", .panic (.text "broken")],
      .script "mute" []], by decide⟩
  build := ⟨"1.0", "abc1234", "abc1234def", 1700000000, .minted, "builder", "buildhost", "/src"⟩
  statsBase := "tsd"
  statsHost := "h"
  textProtocol := [.panic .unreadable]

/-- A request without a body for a path. -/
def exGet (path : String) : Http.Request := ⟨"GET", ⟨none, "", path, none⟩, [], ""⟩

/-- A request that took two milliseconds. -/
def exClock : Clock := ⟨1700000001, ⟨0, 1900000⟩, ⟨0, 2000000⟩⟩

/-- The connection on which the requests come. -/
def exConn : Handle := ⟨1, none⟩

example : Meets exSetup (exGet "/version") (.command .version) := by decide +kernel

end AdminPort
