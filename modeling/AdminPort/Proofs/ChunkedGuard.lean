import AdminPort.Proofs.Stopping
import Mathlib.Data.List.Basic

/-!
# The guard against chunked requests

A request is refused as chunked when one of its headers says that the body comes
in chunks: a header of the right name, in letters of either case, whose value is
visible and has the coding "chunked" among the pieces between its commas, again
in letters of either case and with blanks around it or not. `SaysChunked` spells
this out without the way in which headers are read.

The guard stands in front of everything else. A request that it refuses is
answered, counted and written to the journal, and that is all: the outcome does
not depend on the command table, the target, the method or any other header.

Results:
1. `mem_splitOn_iff`, `lowered_eq_iff`: pieces between commas, letters of either case.
2. `announcesChunked_iff`: the headers that say so.
3. `refusedChunked_iff`: a dispatch refuses a request as chunked exactly for such a header.
4. `chunked_guard`: the guard is exact and comes first, and neither the order of the
   headers nor the way a list of codings is spread over them matters.
-/

namespace AdminPort

namespace Http

/-! ## Definitions -/

/-- `PieceOf separator s piece`: cut at its separators, the text has this piece. -/
def PieceOf (separator : Char) (s piece : List Char) : Prop :=
  separator ∉ piece ∧ ∃ before behind, s = before ++ piece ++ behind ∧
    (before = [] ∨ ∃ front, before = front ++ [separator]) ∧
    (behind = [] ∨ ∃ rest, behind = separator :: rest)

/-- `Spells s word`: the text is the word, in letters of either case. -/
def Spells (s word : List Char) : Prop :=
  List.Forall₂ (fun c d => c = d ∨ c = d.toUpper) s word

/-- `SaysChunked h`: the header says that the body comes in chunks.

* `name`: its name is that of the transfer codings.
* `visible`: its value is visible ASCII with spaces and tabs.
* `coding`: blanks apart, a piece between commas is the coding. -/
structure SaysChunked (h : Header) : Prop where
  name : Spells h.1.toList "transfer-encoding".toList
  visible : ∀ c ∈ h.2.toList, c = '\t' ∨ ' ' ≤ c ∧ c ≤ '~'
  coding : ∃ left coding right, PieceOf ',' h.2.toList (left ++ coding ++ right) ∧
    (∀ c ∈ left, Text.isBlank c = true) ∧ (∀ c ∈ right, Text.isBlank c = true) ∧
    Spells coding "chunked".toList

end Http

/-- `outcome.RefusedChunked`: the request was refused as chunked, as the journal says. -/
def Outcome.RefusedChunked (outcome : Outcome) : Prop :=
  ∃ conn uri, .chunkedRefused conn uri ∈ outcome.journal

namespace Http

/-! ## Pieces -/

theorem PieceOf.whole {separator : Char} {s : List Char} (free : separator ∉ s) :
    PieceOf separator s s :=
  ⟨free, [], [], by simp, .inl rfl, .inl rfl⟩

theorem PieceOf.first {separator : Char} {s : List Char} (free : separator ∉ s)
    (rest : List Char) : PieceOf separator (s ++ separator :: rest) s :=
  ⟨free, [], separator :: rest, by simp, .inl rfl, .inr ⟨rest, rfl⟩⟩

theorem PieceOf.later {separator : Char} {s piece : List Char} (h : PieceOf separator s piece)
    (front : List Char) : PieceOf separator (front ++ separator :: s) piece := by
  obtain ⟨free, before, behind, rfl, left, right⟩ := h
  refine ⟨free, front ++ separator :: before, behind, by simp, .inr ?_, right⟩
  rcases left with rfl | ⟨middle, rfl⟩
  · exact ⟨front, rfl⟩
  · exact ⟨front ++ separator :: middle, by simp⟩

theorem pieceOf_of_mem_splitOn {separator : Char} {s piece : List Char}
    (h : piece ∈ s.splitOn separator) : PieceOf separator s piece := by
  -- by induction on the length of the text, from one separator to the next
  by_cases mem : separator ∈ s
  · obtain ⟨front, rest, rfl, free⟩ := List.eq_append_cons_of_mem mem
    rw [List.splitOn_append_cons_self_of_not_mem free] at h
    rcases List.mem_cons.1 h with rfl | h
    · exact .first free rest
    · exact (pieceOf_of_mem_splitOn h).later front
  · rw [List.splitOn_eq_singleton mem, List.mem_singleton] at h
    rw [h]
    exact .whole mem
termination_by s.length

theorem mem_splitOn_iff {separator : Char} {s piece : List Char} :
    piece ∈ s.splitOn separator ↔ PieceOf separator s piece := by
  constructor
  · exact pieceOf_of_mem_splitOn
  · rintro ⟨free, before, behind, rfl, left, right⟩
    -- what is in front of the piece adds pieces before it, what is behind it adds some after
    have cut : piece ∈ (piece ++ behind).splitOn separator := by
      rcases right with rfl | ⟨rest, rfl⟩
      · rw [List.append_nil, List.splitOn_eq_singleton free]
        exact List.mem_singleton_self piece
      · rw [List.splitOn_append_cons_self_of_not_mem free]
        exact List.mem_cons_self
    rcases left with rfl | ⟨front, rfl⟩
    · exact cut
    · rw [List.append_assoc, List.append_assoc, List.singleton_append,
        List.splitOn_append_cons_self]
      exact List.mem_append_right _ cut

/-! ## Letters -/

theorem toNat_toLower (c : Char) :
    c.toLower.toNat = if 65 ≤ c.toNat ∧ c.toNat ≤ 90 then c.toNat + 32 else c.toNat := by
  unfold Char.toLower
  split
  · next capital =>
    have capital : 65 ≤ c.toNat ∧ c.toNat ≤ 90 := capital
    have moved : (c.val + ('a'.val - 'A'.val)).toNat = (c.toNat + 32) % 4294967296 :=
      UInt32.toNat_add _ _
    rw [if_pos capital]
    exact moved.trans (Nat.mod_eq_of_lt (by omega))
  · next other => exact (if_neg other).symm

theorem toNat_toUpper (c : Char) :
    c.toUpper.toNat = if 97 ≤ c.toNat ∧ c.toNat ≤ 122 then c.toNat - 32 else c.toNat := by
  unfold Char.toUpper
  split
  · next small =>
    have small : 97 ≤ c.toNat ∧ c.toNat ≤ 122 := small
    -- the difference is negative, so the sum of the two words wraps
    have moved : (c.val + ('A'.val - 'a'.val)).toNat = (c.toNat + 4294967264) % 4294967296 :=
      UInt32.toNat_add _ _
    rw [if_pos small]
    exact moved.trans (by omega)
  · next other => exact (if_neg other).symm

/-- In lower case a character is a given one if it is that one or its capital. -/
theorem toLower_eq_iff {c d : Char} (small : d.isUpper = false) :
    c.toLower = d ↔ c = d ∨ c = d.toUpper := by
  have small : ¬ (65 ≤ d.toNat ∧ d.toNat ≤ 90) := of_decide_eq_false small
  simp only [← Char.toNat_inj, toNat_toLower, toNat_toUpper]
  split <;> split <;> omega

theorem lowered_eq_iff {s word : List Char} (small : ∀ d ∈ word, d.isUpper = false) :
    lowered s = word ↔ Spells s word := by
  induction s generalizing word with
  | nil => cases word <;> simp [lowered, Spells]
  | cons c s ih =>
    cases word with
    | nil => simp [lowered, Spells]
    | cons d word =>
      have rest := ih fun d mem => small d (List.mem_cons_of_mem _ mem)
      have first := toLower_eq_iff (c := c) (small d List.mem_cons_self)
      rw [lowered, List.map_cons, List.cons_eq_cons, first, ← lowered, rest, Spells, Spells,
        List.forall₂_cons]

/-- A word without blanks has none in whatever case it is written. -/
theorem not_isBlank_of_spells {s word : List Char} (h : Spells s word)
    (free : ∀ d ∈ word, Text.isBlank d = false ∧ Text.isBlank d.toUpper = false) :
    ∀ c ∈ s, Text.isBlank c = false := by
  induction h with
  | nil => simp
  | cons same _ ih =>
    intro c mem
    rcases List.mem_cons.1 mem with rfl | mem
    · obtain ⟨small, capital⟩ := free _ List.mem_cons_self
      rcases same with rfl | rfl
      · exact small
      · exact capital
    · exact ih (fun d mem => free d (List.mem_cons_of_mem _ mem)) c mem

/-! ## Headers -/

/-- A piece is trimmed to the coding if it is the coding with blanks around it. -/
theorem lowered_trim_iff {piece : List Char} :
    lowered (Text.trim piece) = "chunked".toList ↔
      ∃ left coding right, piece = left ++ coding ++ right ∧
        (∀ c ∈ left, Text.isBlank c = true) ∧ (∀ c ∈ right, Text.isBlank c = true) ∧
        Spells coding "chunked".toList := by
  have small : ∀ d ∈ "chunked".toList, d.isUpper = false := by simp
  have free : ∀ d ∈ "chunked".toList,
      Text.isBlank d = false ∧ Text.isBlank d.toUpper = false := by
    simp [Text.isBlank]
  rw [lowered_eq_iff small]
  constructor
  · intro spelled
    obtain ⟨⟨left, right, cut, before, behind⟩, -, -⟩ := Text.trim_eq_iff.1 rfl
    exact ⟨left, _, right, cut, before, behind, spelled⟩
  · rintro ⟨left, coding, right, rfl, before, behind, spelled⟩
    have solid := not_isBlank_of_spells spelled free
    rw [Text.trim_append before behind]
    · exact spelled
    · exact fun c head => solid c (List.mem_of_head? head)
    · exact fun c last => solid c (List.mem_of_getLast? last)

theorem isVisible_iff {c : Char} : isVisible c = true ↔ c = '\t' ∨ ' ' ≤ c ∧ c ≤ '~' := by
  simp [isVisible]

theorem announcesChunked_iff {h : Header} :
    Request.announcesChunked h = true ↔ SaysChunked h := by
  have small : ∀ d ∈ "transfer-encoding".toList, d.isUpper = false := by simp
  simp only [Request.announcesChunked, Bool.and_eq_true, beq_iff_eq, List.any_eq_true,
    List.all_eq_true, mem_splitOn_iff, lowered_trim_iff, lowered_eq_iff small, isVisible_iff]
  constructor
  · rintro ⟨⟨name, visible⟩, piece, cut, left, coding, right, rfl, before, behind, spelled⟩
    exact ⟨name, visible, left, coding, right, cut, before, behind, spelled⟩
  · rintro ⟨name, visible, left, coding, right, cut, before, behind, spelled⟩
    exact ⟨⟨name, visible⟩, _, cut, left, coding, right, rfl, before, behind, spelled⟩

/-- A blank does not part codings. -/
example : ¬ SaysChunked ("transfer-encoding", "gzip chunked") := by
  rw [← announcesChunked_iff]
  decide +kernel

/-- Of a list of codings in one header and the same list over two headers either
both say that the body comes in chunks or neither does. -/
theorem announcesChunked_split {name left right : String}
    (visible : ∀ c ∈ (left ++ "," ++ right).toList, isVisible c = true) :
    Request.announcesChunked (name, left ++ "," ++ right) =
      (Request.announcesChunked (name, left) || Request.announcesChunked (name, right)) := by
  have cut : (left ++ "," ++ right).toList = left.toList ++ ',' :: right.toList := by simp
  rw [cut] at visible
  have front : left.toList.all isVisible = true :=
    List.all_eq_true.2 fun c mem => visible c (List.mem_append_left _ mem)
  have back : right.toList.all isVisible = true :=
    List.all_eq_true.2 fun c mem =>
      visible c (List.mem_append_right _ (List.mem_cons_of_mem _ mem))
  have whole : (left.toList ++ ',' :: right.toList).all isVisible = true :=
    List.all_eq_true.2 visible
  simp only [Request.announcesChunked, cut, front, back, whole, Bool.and_true,
    List.splitOn_append_cons_self, List.any_append, Bool.and_or_distrib_left]

end Http

/-! ## Refusals -/

section

variable {setup : Setup} {clock : Clock} {state : State} {request : Http.Request} {conn : Handle}

/-- The whole outcome of a refusal, which no setup has a part in. -/
theorem dispatch_of_isChunked (chunked : request.isChunked = true) :
    dispatch setup clock state request conn =
      { response := Page.blaming "Chunked request not supported."
        state := { state with traffic := state.traffic.query clock.elapsed }
        journal := [.chunkedRefused conn request.uri]
        tasks := [] } := by
  rw [dispatch_of_meets (.chunked chunked), ← Page.response_badRequest]
  rfl

theorem mem_journal_settle {w : Work} {v : Verdict} {conn : Handle} {uri : String} :
    .chunkedRefused conn uri ∈ (w.settle clock v).journal ↔
      .chunkedRefused conn uri ∈ w.journal := by
  cases v with
  | failed => simp only [Work.settle]; split <;> simp [Work.send, Work.note, Work.countException]
  | _ => simp [Work.settle, Work.send, Work.note]

theorem mem_journal_run {now : UInt64} {w : Work} {c : Command} {conn : Handle} {uri : String} :
    .chunkedRefused conn uri ∈ (w.run setup now c).1.journal ↔
      .chunkedRefused conn uri ∈ w.journal := by
  -- only stopping the daemon writes anything down
  by_cases stop : c = .shutdown
  · subst stop
    have closed : .chunkedRefused conn uri ∉ w.state.registry.closeAll.2 := by
      cases h : w.state.registry.closing <;> simp [Registry.closeAll, h]
    rw [Work.run]
    cases h : w.state.nextFlush.fault? with
    | some fault => simp [Work.shutDown_of_fault h, closed]
    | none => simp [Work.shutDown_of_written h, closed, PointStore.flush]
  · rw [Work.run_of_ne_shutdown _ _ _ stop]

/-- A dispatch refuses its request as chunked exactly if that is what it meets. -/
theorem refusedChunked_iff :
    (dispatch setup clock state request conn).RefusedChunked ↔ request.isChunked = true := by
  constructor
  · rintro ⟨conn', uri, mem⟩
    obtain ⟨e, met⟩ := exists_meets setup request
    cases e with
    | chunked =>
      cases met with
      | chunked chunked => exact chunked
    | command c =>
      -- a command starts with nothing written down
      rw [dispatch_of_command met] at mem
      exact absurd (mem_journal_run.1 (mem_journal_settle.1 mem)) List.not_mem_nil
    | _ =>
      rw [dispatch_of_meets met] at mem
      exact absurd (mem_journal_settle.1 mem) List.not_mem_nil
  · intro chunked
    rw [dispatch_of_isChunked chunked]
    exact ⟨conn, request.uri, List.mem_singleton_self _⟩

end

/-! ## Main result -/

/-- The guard is exact: a request is refused as chunked if and only if some header
says that it is. It comes first: the outcome of a refusal is the same under every
setup, so no command has run, and it holds one entry of the journal and one more
query; and any request with these headers among its own is refused as well. What
it says of a request depends neither on the order of the headers nor on how a
list of codings is spread over them. -/
theorem chunked_guard (setup : Setup) (clock : Clock) (state : State) (request : Http.Request)
    (conn : Handle) :
    let outcome := dispatch setup clock state request conn
    let under (headers : List Http.Header) :=
      dispatch setup clock state { request with headers } conn
    (outcome.RefusedChunked ↔ ∃ h ∈ request.headers, Http.SaysChunked h) ∧
      (outcome.RefusedChunked →
        outcome =
            { response :=
                ⟨400, some "text/html; charset=UTF-8",
                  Page.blame ++ "Chunked request not supported." ++
                    "</blockquote></blockquote>" ++ Page.foot⟩
              state :=
                { state with
                  traffic :=
                    { state.traffic with
                      queries := state.traffic.queries + 1
                      latency := state.traffic.latency.observe clock.elapsed } }
              journal := [.chunkedRefused conn request.uri]
              tasks := [] } ∧
          outcome.journal.map Journal.Entry.level = [.error] ∧
          ∀ setup' clock' state' request' conn', request.headers ⊆ request'.headers →
            (dispatch setup' clock' state' request' conn').RefusedChunked) ∧
      (∀ headers, headers.Perm request.headers →
        ((under headers).RefusedChunked ↔ outcome.RefusedChunked)) ∧
      ∀ front name left right behind,
        request.headers = front ++ (name, left ++ "," ++ right) :: behind →
        (∀ c ∈ (left ++ "," ++ right).toList, Http.isVisible c = true) →
          ((under (front ++ (name, left) :: (name, right) :: behind)).RefusedChunked ↔
            outcome.RefusedChunked) := by
  intro outcome under
  refine ⟨?_, ?_, ?_, ?_⟩
  · simp only [outcome, refusedChunked_iff, Http.Request.isChunked, List.any_eq_true,
      Http.announcesChunked_iff]
  · intro refused
    have chunked := refusedChunked_iff.1 refused
    have ended : outcome = _ := dispatch_of_isChunked chunked
    refine ⟨ended, by rw [ended]; rfl, ?_⟩
    intro setup' clock' state' request' conn' sub
    obtain ⟨h, mem, announces⟩ := List.any_eq_true.1 chunked
    exact refusedChunked_iff.2 (List.any_eq_true.2 ⟨h, sub mem, announces⟩)
  · intro headers perm
    simp only [outcome, under, refusedChunked_iff, Http.Request.isChunked]
    rw [perm.any_eq]
  · intro front name left right behind cut visible
    simp only [outcome, under, refusedChunked_iff, Http.Request.isChunked, cut, List.any_append,
      List.any_cons, Http.announcesChunked_split visible, Bool.or_assoc]

/-- A request to stop the daemon that announces its body in chunks, in odd letters. -/
def exChunked : Http.Request :=
  { exGet "/diediedie" with
    method := "POST"
    headers := [("accept", "*/*"), ("Transfer-ENCODING", "gzip , CHUNKED\t")] }

/-- The daemon goes on, whichever way the headers are written, and the same headers
are refused with a target that has no slash. -/
theorem chunked_guard_exChunked :
    let before := exState .written
    let outcome := dispatch exSetup exClock before exChunked exConn
    let under (headers : List Http.Header) :=
      dispatch exSetup exClock before { exChunked with headers } exConn
    outcome.RefusedChunked ∧ outcome.tasks = [] ∧
      outcome.state.registry.connections = [exConn] ∧
      outcome.journal.map Journal.Entry.level = [.error] ∧
      (under exChunked.headers.reverse).RefusedChunked ∧
      (under [("accept", "*/*"), ("Transfer-ENCODING", "gzip "),
        ("Transfer-ENCODING", " CHUNKED\t")]).RefusedChunked ∧
      (dispatch exSetup exClock before
        { exChunked with target := ⟨none, "diediedie", "", none⟩ } exConn).RefusedChunked := by
  intro before outcome under
  obtain ⟨-, first, order, spread⟩ := chunked_guard exSetup exClock before exChunked exConn
  have refused : outcome.RefusedChunked := refusedChunked_iff.2 (by decide +kernel)
  obtain ⟨ended, levels, others⟩ := first refused
  have tasks : outcome.tasks = [] := congrArg Outcome.tasks ended
  have kept : outcome.state.registry.connections = [exConn] :=
    congrArg (·.state.registry.connections) ended
  have reversed := (order _ (List.reverse_perm _)).2 refused
  have apart := (spread [("accept", "*/*")] "Transfer-ENCODING" "gzip " " CHUNKED\t" []
    (by decide +kernel) (List.all_eq_true.1 (by decide +kernel))).2 refused
  exact ⟨refused, tasks, kept, levels, reversed, apart,
    others exSetup exClock before _ exConn (List.Subset.refl _)⟩

end AdminPort
