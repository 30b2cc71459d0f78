import AdminPort.Proofs.Lines
import AdminPort.Proofs.Numerals
import AdminPort.Proofs.ReplyLaw
import AdminPort.Proofs.Run
import AdminPort.Startup

/-!
# Statistics that a machine can read

Nothing is escaped when a line of statistics is written, so it can be taken apart
again only if nothing in it holds a separator. A configuration that is accepted
sees to that: the base of the metrics and the host are words, whatever the
machine is called, and all the rest of a line is fixed or made of digits.

Results:
1. `rows_writeAll`, `readAll?_writeAll`: lines of words are split and read back.
2. `readable_of_accepted`: under a configuration that is accepted all statistics
   are such lines, and which.
-/

namespace AdminPort

/-! ## Reading lines -/

namespace Stats

/-- The fields of a line in order, as they are written. -/
def Line.fields (line : Line) : List String :=
  line.metric :: Text.Numeral.decimal line.timestamp.toNat ::
    Text.Numeral.decimal line.value.toNat :: line.tags.map fun tag => tag.1 ++ "=" ++ tag.2

/-- Lines of statistics as one text. -/
def writeAll (lines : List Line) : String := lines.foldr (·.write ++ ·) ""

/-- A text split into rows at its line feeds, and each row into fields at its single
spaces. The last row is what stands behind the last line feed. -/
def rows (text : String) : List (List String) :=
  (text.toList.splitOn '\n').map fun row => (row.splitOn ' ').map String.ofList

/-- A word of 64 bits in decimal digits. -/
def readWord? (field : String) : Option UInt64 :=
  ((Text.Numeral.readNat 10 field.toList).filter (· < UInt64.size)).map UInt64.ofNat

/-- A tag, whose name ends at the first equals sign. -/
def readTag? (field : String) : Option Tag :=
  match field.toList.dropWhile (· ≠ '=') with
  | [] => none
  | _ :: value => some (String.ofList (field.toList.takeWhile (· ≠ '=')), String.ofList value)

/-- A line from its fields. -/
def readLine? : List String → Option Line
  | metric :: timestamp :: value :: tags => do
    some ⟨metric, ← readWord? timestamp, ← readWord? value, ← tags.mapM readTag?⟩
  | _ => none

/-- The lines of a text whose last line ends with a line feed too. -/
def readAll? (text : String) : Option (List Line) :=
  if (rows text).getLast? = some [""] then (rows text).dropLast.mapM readLine? else none

/-- `PlainTag tag`: the name and the value are words, and the name holds no equals sign. -/
structure PlainTag (tag : Tag) : Prop where
  name : Text.isWord tag.1 = true
  unbroken : '=' ∉ tag.1.toList
  value : Text.isWord tag.2 = true

/-- `line.Plain`: nothing in the line can be taken for a separator. -/
structure Line.Plain (line : Line) : Prop where
  metric : Text.isWord line.metric = true
  tags : ∀ tag ∈ line.tags, PlainTag tag

/-- The lines that calls record after settings, each under the tags in force by then. -/
def recorded (base host : String) (now : UInt64) : List Tag → List Call → List Line
  | _, [] => []
  | settings, call :: rest =>
    (call.line? base now (inForce settings)).toList ++
      recorded base host now (settings ++ (call.tag? host).toList) rest

end Stats

/-! ## Words and numerals -/

namespace Text

theorem isWord_iff {s : String} :
    isWord s = true ↔ s ≠ "" ∧ ∀ c ∈ s.toList, isBlank c = false := by
  simp [isWord]

theorem not_mem_of_isWord {s : String} (h : isWord s = true) {c : Char} (blank : isBlank c = true) :
    c ∉ s.toList := by
  intro mem
  simp [(isWord_iff.1 h).2 c mem] at blank

theorem isWord_append {a b : String} (ha : isWord a = true) (hb : isWord b = true) :
    isWord (a ++ b) = true := by
  obtain ⟨nonempty, free⟩ := isWord_iff.1 ha
  refine isWord_iff.2 ⟨by simp [nonempty], fun c mem => ?_⟩
  rw [String.toList_append, List.mem_append] at mem
  exact mem.elim (free c) ((isWord_iff.1 hb).2 c)

theorem isBlank_of_isDigit {c : Char} (h : c.isDigit = true) : isBlank c = false := by
  simp only [Char.isDigit, Bool.and_eq_true, decide_eq_true_eq, ge_iff_le,
    UInt32.le_iff_toNat_le] at h
  change 48 ≤ c.toNat ∧ c.toNat ≤ 57 at h
  simp only [isBlank, Bool.or_eq_false_iff, Bool.and_eq_false_iff, beq_eq_false_iff_ne,
    decide_eq_false_iff_not]
  omega

namespace Numeral

theorem isWord_decimal (n : Nat) : isWord (decimal n) = true := by
  refine isWord_iff.2 ⟨fun empty => ?_, fun c mem => ?_⟩
  · have := congrArg String.toList empty
    rw [decimal, String.toList_ofList] at this
    exact Nat.toDigits_ne_nil this
  · rw [decimal, String.toList_ofList] at mem
    exact isBlank_of_isDigit (Nat.isDigit_of_mem_toDigits (by decide) (by decide) mem)

end Numeral

end Text

/-! ## Reading back -/

namespace Stats

theorem mem_of_mem_intercalate {c : Char} {separator : List Char} {texts : List (List Char)}
    (mem : c ∈ separator.intercalate texts) : c ∈ separator ∨ ∃ text ∈ texts, c ∈ text := by
  induction texts with
  | nil => simp at mem
  | cons text rest ih =>
    cases rest with
    | nil => exact .inr ⟨text, by simp, by simpa using mem⟩
    | cons next rest =>
      rw [List.intercalate_cons_cons, List.mem_append, List.mem_append] at mem
      rcases mem with (here | between) | later
      · exact .inr ⟨text, by simp, here⟩
      · exact .inl between
      · exact (ih later).imp_right fun ⟨text, within, mem⟩ => ⟨text, .tail _ within, mem⟩

section

variable {line : Line}

theorem Line.Plain.isWord_of_mem_fields (plain : line.Plain) {field : String}
    (mem : field ∈ line.fields) : Text.isWord field = true := by
  simp only [Line.fields, List.mem_cons, List.mem_map] at mem
  rcases mem with rfl | rfl | rfl | ⟨tag, mem, rfl⟩
  · exact plain.metric
  · exact Text.Numeral.isWord_decimal _
  · exact Text.Numeral.isWord_decimal _
  · have name : Text.isWord (tag.1 ++ "=") = true :=
      Text.isWord_append (plain.tags tag mem).name (by decide)
    exact Text.isWord_append name (plain.tags tag mem).value

/-- A line is its fields with single spaces between them. -/
theorem toList_write (line : Line) :
    line.write.toList = [' '].intercalate (line.fields.map String.toList) ++ ['\n'] := by
  have tags : ∀ (before : List Char) (tags : List Tag),
      before ++ (writeTags tags).toList =
        [' '].intercalate (before :: tags.map fun tag => (tag.1 ++ "=" ++ tag.2).toList) := by
    intro before tags
    induction tags generalizing before with
    | nil => simp [writeTags]
    | cons tag rest ih =>
      have later := ih (tag.1 ++ "=" ++ tag.2).toList
      rw [List.map_cons, List.intercalate_cons_cons, ← later]
      simp [writeTags, writeTag]
  have numbers := tags (Text.Numeral.decimal line.value.toNat).toList line.tags
  simp only [Line.write, Line.fields, List.map_cons, List.map_map, Function.comp_def,
    List.intercalate_cons_cons, ← numbers]
  simp

theorem splitOn_write (plain : line.Plain) (rest : List Char) :
    (line.write.toList ++ rest).splitOn '\n' =
      [' '].intercalate (line.fields.map String.toList) :: rest.splitOn '\n' := by
  have unbroken : '\n' ∉ [' '].intercalate (line.fields.map String.toList) := by
    intro mem
    rcases mem_of_mem_intercalate mem with mem | ⟨text, written, mem⟩
    · exact absurd mem (by decide)
    · obtain ⟨field, within, rfl⟩ := List.mem_map.1 written
      exact Text.not_mem_of_isWord (plain.isWord_of_mem_fields within) (by decide) mem
  rw [toList_write, List.append_assoc, List.singleton_append,
    List.splitOn_append_cons_self_of_not_mem unbroken]

theorem rows_writeAll {lines : List Line} (plain : ∀ line ∈ lines, line.Plain) :
    rows (writeAll lines) = lines.map Line.fields ++ [[""]] := by
  induction lines with
  | nil => rfl
  | cons line rest ih =>
    obtain ⟨plain, later⟩ := List.forall_mem_cons.1 plain
    have fields : ([' '].intercalate (line.fields.map String.toList)).splitOn ' ' =
        line.fields.map String.toList := by
      refine List.splitOn_intercalate ' ' ?_ (by simp [Line.fields])
      intro text mem
      obtain ⟨field, within, rfl⟩ := List.mem_map.1 mem
      exact Text.not_mem_of_isWord (plain.isWord_of_mem_fields within) (by decide)
    have split : rows (writeAll (line :: rest)) = line.fields :: rows (writeAll rest) := by
      rw [rows, writeAll, List.foldr_cons, String.toList_append, splitOn_write plain,
        List.map_cons, fields]
      simp [rows, writeAll]
    rw [split, ih later, List.map_cons, List.cons_append]

end

theorem readWord?_decimal (n : UInt64) : readWord? (Text.Numeral.decimal n.toNat) = some n := by
  have small : n.toNat < UInt64.size := n.toNat_lt
  simp [readWord?, Text.Numeral.readNat_decimal, small]

theorem readTag?_write {tag : Tag} (name : '=' ∉ tag.1.toList) :
    readTag? (tag.1 ++ "=" ++ tag.2) = some tag := by
  obtain ⟨key, value⟩ := tag
  have kept : ∀ c ∈ key.toList, (decide (c ≠ '=')) = true := by
    intro c mem
    have : c ≠ '=' := by
      rintro rfl
      exact name mem
    simpa using this
  have text : (key ++ "=" ++ value).toList = key.toList ++ '=' :: value.toList := by simp
  rw [readTag?, text, List.dropWhile_append_of_pos kept, List.takeWhile_append_of_pos kept]
  simp

theorem readLine?_fields {line : Line} (plain : line.Plain) :
    readLine? line.fields = some line := by
  have tags : ∀ tags : List Tag, (∀ tag ∈ tags, '=' ∉ tag.1.toList) →
      (tags.map fun tag => tag.1 ++ "=" ++ tag.2).mapM readTag? = some tags := by
    intro tags names
    induction tags with
    | nil => rfl
    | cons tag rest ih =>
      obtain ⟨name, names⟩ := List.forall_mem_cons.1 names
      simp [readTag?_write name, ih names]
  have told := tags line.tags fun tag mem => (plain.tags tag mem).unbroken
  simp [readLine?, Line.fields, readWord?_decimal, told]

theorem readAll?_writeAll {lines : List Line} (plain : ∀ line ∈ lines, line.Plain) :
    readAll? (writeAll lines) = some lines := by
  rw [readAll?, rows_writeAll plain, List.getLast?_concat, if_pos rfl, List.dropLast_concat]
  induction lines with
  | nil => rfl
  | cons line rest ih =>
    obtain ⟨plain, later⟩ := List.forall_mem_cons.1 plain
    simp [readLine?_fields plain, ih later]

/-! ## Recorded lines -/

theorem writeAll_append (a b : List Line) : writeAll (a ++ b) = writeAll a ++ writeAll b := by
  induction a with
  | nil => simp [writeAll]
  | cons line rest ih => simp_all [writeAll, String.append_assoc]

/-- Calls that emit no text write the lines that they record and nothing besides. -/
theorem written_eq_writeAll (base host : String) (now : UInt64) (settings : List Tag)
    {calls : List Call} (silent : ∀ call ∈ calls, ∀ text, call ≠ .emit text) :
    written base host now settings calls = writeAll (recorded base host now settings calls) := by
  induction calls generalizing settings with
  | nil => rfl
  | cons call rest ih =>
    obtain ⟨silent, later⟩ := List.forall_mem_cons.1 silent
    rw [written, recorded, writeAll_append, ih _ later]
    congr 1
    cases call with
    | emit text => exact absurd rfl (silent text)
    | record | recordTagged => exact (String.append_empty).symm
    | _ => rfl

end Stats

/-! ## Accepted configurations -/

/-- The lines that the components record when the statistics are collected. -/
def Setup.recorded (setup : Setup) (state : State) (now : UInt64) : List Stats.Line :=
  Stats.recorded setup.statsBase setup.statsHost now [] (setup.statsCalls state)

namespace Stats

/-- The metrics of the statistics in order, without their base, and whether they are
told for requests of all types. -/
def metrics : List (String × Bool) :=
  [("connectionmgr.connections", false), ("connectionmgr.established", false),
   ("http.queries", false), ("http.exceptions", false),
   ("http.latency_50pct", true), ("http.latency_75pct", true),
   ("http.latency_90pct", true), ("http.latency_95pct", true),
   ("storage.points_buffered", false), ("storage.points_flushed", false),
   ("storage.flushes", false)]

/-- The line of a metric. -/
def lineOf (base host : String) (now : UInt64) (metric : String × Bool) (value : UInt64) :
    Line where
  metric := base ++ "." ++ metric.1
  timestamp := now
  value := value
  tags := (if metric.2 then [("type", "all")] else []) ++ [("host", host)]

/-- The fields of the line of a metric. -/
def row (base host : String) (now : UInt64) (metric : String × Bool) (value : UInt64) :
    List String :=
  [base ++ "." ++ metric.1, Text.Numeral.decimal now.toNat, Text.Numeral.decimal value.toNat] ++
    (if metric.2 then ["type=all"] else []) ++ ["host=" ++ host]

/-- `Readable base host now recorded body`: the body tells the recorded lines, and they
can be read off it.

* `lines`: the lines are those of the metrics in order, with some values, each ended
  by a line feed, and single spaces split each into its fields.
* `full`: no field is empty.
* `readBack`: reading the body gives the recorded lines. -/
structure Readable (base host : String) (now : UInt64) (recorded : List Line) (body : String) :
    Prop where
  lines : ∃ values : List UInt64, values.length = 11 ∧
    recorded = List.zipWith (lineOf base host now) metrics values ∧
    rows body = List.zipWith (row base host now) metrics values ++ [[""]]
  full : ∀ fields ∈ (rows body).dropLast, "" ∉ fields
  readBack : readAll? body = some recorded

section

variable {base host : String} (now : UInt64)

theorem plain_lineOf (wordBase : Text.isWord base = true) (wordHost : Text.isWord host = true)
    {metric : String × Bool} (mem : metric ∈ metrics) (value : UInt64) :
    (lineOf base host now metric value).Plain := by
  have words : ∀ metric ∈ metrics, Text.isWord metric.1 = true := by decide +kernel
  have dotted : Text.isWord (base ++ ".") = true := Text.isWord_append wordBase (by decide)
  have typed : PlainTag ("type", "all") := ⟨by decide, by decide, by decide⟩
  have named : Text.isWord "host" = true ∧ '=' ∉ "host".toList := by decide
  have tagged : PlainTag ("host", host) := ⟨named.1, named.2, wordHost⟩
  refine ⟨Text.isWord_append dotted (words metric mem), ?_⟩
  intro tag mem
  rcases List.mem_append.1 mem with mem | mem
  · split at mem
    · exact List.mem_singleton.1 mem ▸ typed
    · exact absurd mem List.not_mem_nil
  · exact List.mem_singleton.1 mem ▸ tagged

theorem fields_lineOf (metric : String × Bool) (value : UInt64) :
    (lineOf base host now metric value).fields = row base host now metric value := by
  obtain ⟨name, typed⟩ := metric
  cases typed <;> rfl

/-- Lines of the metrics can be read. -/
theorem readable_of_lineOf (wordBase : Text.isWord base = true) (wordHost : Text.isWord host = true)
    {values : List UInt64} (eleven : values.length = 11) :
    let lines := List.zipWith (lineOf base host now) metrics values
    Readable base host now lines (writeAll lines) := by
  intro lines
  have plain : ∀ line ∈ lines, line.Plain := by
    intro line mem
    simp only [lines, ← List.map_uncurry_zip_eq_zipWith] at mem
    obtain ⟨⟨metric, value⟩, told, rfl⟩ := List.mem_map.1 mem
    exact plain_lineOf now wordBase wordHost (List.of_mem_zip told).1 value
  have split := rows_writeAll plain
  refine ⟨⟨values, eleven, rfl, ?_⟩, ?_, readAll?_writeAll plain⟩
  · rw [split, List.map_zipWith]
    simp only [fields_lineOf]
  · rw [split, List.dropLast_concat]
    intro fields mem empty
    obtain ⟨line, within, rfl⟩ := List.mem_map.1 mem
    have word := (plain line within).isWord_of_mem_fields empty
    exact (Text.isWord_iff.1 word).1 rfl

end

end Stats

section

variable {setup : Setup}

theorem Setup.statsBody_eq_writeAll (silent : setup.textProtocol = []) (state : State)
    (now : UInt64) : setup.statsBody state now = Stats.writeAll (setup.recorded state now) := by
  have untold : ∀ call ∈ setup.statsCalls state, ∀ text, call ≠ .emit text := by
    rintro call mem text rfl
    simp [statsCalls, silent, Registry.stats, Traffic.stats, PointStore.stats] at mem
  rw [statsBody_eq_written, Stats.written_eq_writeAll _ _ _ _ untold, recorded]

/-- Without a text protocol one line is recorded for each metric. -/
theorem Setup.exists_recorded_eq (silent : setup.textProtocol = []) (state : State)
    (now : UInt64) :
    ∃ values : List UInt64, values.length = 11 ∧
      setup.recorded state now =
        List.zipWith (Stats.lineOf setup.statsBase setup.statsHost now) Stats.metrics values := by
  let latency := state.traffic.latency.percentileMillis
  refine ⟨[.ofNat state.registry.size, state.registry.established, state.traffic.queries,
    state.traffic.exceptions, latency 50, latency 75, latency 90, latency 95,
    .ofNat state.store.size, state.store.flushed, state.store.flushes], rfl, ?_⟩
  -- the host is the first tag that is set, and no component sets another
  simp [recorded, statsCalls, silent, Registry.stats, Traffic.stats, Traffic.reportedPercentiles,
    PointStore.stats, Stats.recorded, Stats.Call.line?, Stats.Call.tag?]
  rfl

/-- A configuration that is accepted leads to statistics that can be read, on any
machine and after any run. -/
theorem readable_of_accepted {text : String} {config : Config}
    (accepted : Config.ofText text = .ok config) (build : Build) (machine : Option ByteArray) :
    let front := (Startup.service build config machine []).1.front
    let host := config.stats.resolvedHost machine
    (host ≠ "" ∧ ∀ c ∈ host.toList, Text.isBlank c = false) ∧
      ∀ steps clock request conn, Meets front.setup request (.command .stats) →
        let state := front.state.run front.setup steps
        let response := (dispatch front.setup clock state request conn).response
        response.status = 200 ∧
          Stats.Readable config.stats.base host clock.now
            (front.setup.recorded state clock.now) response.body := by
  intro front host
  have holds := (Config.sections_problem? (Config.problem?_of_ofText accepted)).2
  have wordHost : Text.isWord host = true := StatsSection.isWord_resolvedHost holds machine
  refine ⟨Text.isWord_iff.1 wordHost, ?_⟩
  intro steps clock request conn met state response
  have silent : front.setup.textProtocol = [] := rfl
  have answered : response =
      ⟨200, some "text/plain; charset=UTF-8", front.setup.statsBody state clock.now⟩ :=
    response_of_stats met fun payload mem => List.not_mem_nil (silent ▸ mem)
  obtain ⟨values, eleven, recorded⟩ := Setup.exists_recorded_eq silent state clock.now
  rw [answered, Setup.statsBody_eq_writeAll silent, recorded]
  refine ⟨rfl, ?_⟩
  exact Stats.readable_of_lineOf clock.now (StatsSection.isWord_base holds) wordHost eleven

end

/-- A configuration that names a base of its own and leaves the host to the machine. -/
def exText : String := "version: 1\nstats:\n  prefix: db\n"

/-- The machine has a blank in its name, so the host is the local one. -/
theorem readable_of_accepted_exText :
    let config : Config := { stats := { base := "db" } }
    let machine := some "my machine".toUTF8
    let front := (Startup.service exSetup.build config machine []).1.front
    let state := front.state.run front.setup
      [.connect none, .dispatch exClock (exGet "/version") exConn]
    let response := (dispatch front.setup exClock state (exGet "/stats") exConn).response
    Config.ofText exText = .ok config ∧
      Meets front.setup (exGet "/stats") (.command .stats) ∧ response.status = 200 ∧
      Stats.Readable "db" "localhost" exClock.now (front.setup.recorded state exClock.now)
        response.body := by
  intro config machine front state response
  have accepted : Config.ofText exText = .ok config := by decide +kernel
  have met : Meets front.setup (exGet "/stats") (.command .stats) := by decide +kernel
  have host : config.stats.resolvedHost machine = "localhost" := by decide +kernel
  obtain ⟨-, told⟩ := readable_of_accepted accepted exSetup.build machine
  obtain ⟨status, readable⟩ := told
    [.connect none, .dispatch exClock (exGet "/version") exConn] exClock (exGet "/stats") exConn met
  exact ⟨accepted, met, status, host ▸ readable⟩

end AdminPort
