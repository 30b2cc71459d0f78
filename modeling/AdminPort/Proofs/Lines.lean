import AdminPort.Proofs.Course
import Mathlib.Data.List.Dedup
import Mathlib.Data.List.Induction

/-!
# What calls on a collector write

A collector carries its tags from call to call, so what a call writes depends on
the calls before it. Only the tags that they set matter: each name is in force
once, in the order in which the names were first set, with the value that it was
set to last. A tag that is set is on every later line and on no earlier one.

Results:
1. `inForce_concat`: a collector keeps the tags in force.
2. `text_foldl`: the text of a collector after any calls.
3. `statsBody_eq_written`: the statistics are what the calls of all components write.
-/

namespace AdminPort.Stats

/-! ## Definitions -/

/-- The value that a name was set to last. -/
def latest (settings : List Tag) (name : String) : String :=
  (settings.reverse.lookup name).getD ""

/-- The tags in force after settings: every name once, in the order of the first
setting of each, with its latest value. -/
def inForce (settings : List Tag) : List Tag :=
  (settings.map (·.1)).reverse.dedup.reverse.map fun name => (name, latest settings name)

/-- The text of a recorded value: the metric, the time, the value and the tags. -/
def lineText (metric : String) (time value : Nat) (tags : List Tag) : String :=
  metric ++ " " ++ Text.Numeral.decimal time ++ " " ++ Text.Numeral.decimal value ++
    writeTags tags ++ "\n"

/-- The tag that a call sets on a collector for a host. -/
def Call.tag? (host : String) : Call → Option Tag
  | hostTag => some ("host", host)
  | tag t => some t
  | _ => none

@[simp]
theorem Call.tag?_hostTag (host : String) : hostTag.tag? host = some ("host", host) := rfl

@[simp]
theorem Call.tag?_record (host name : String) (value : UInt64) :
    (record name value).tag? host = none := rfl

@[simp]
theorem Call.tag?_recordTagged (host name : String) (value : UInt64) (own : Tag) :
    (recordTagged name value own).tag? host = none := rfl

/-- The line that a call records under tags. -/
def Call.line? (base : String) (now : UInt64) (tags : List Tag) : Call → Option Line
  | record name value => some ⟨base ++ "." ++ name, now, value, tags⟩
  | recordTagged name value own => some ⟨base ++ "." ++ name, now, value, own :: tags⟩
  | _ => none

/-- What a call writes under tags. -/
def Call.written (base : String) (now : UInt64) (tags : List Tag) : Call → String
  | emit text => text
  | call => ((call.line? base now tags).map Line.write).getD ""

/-- What calls write after settings, each under the tags in force by then. -/
def written (base host : String) (now : UInt64) : List Tag → List Call → String
  | _, [] => ""
  | settings, call :: rest =>
    call.written base now (inForce settings) ++
      written base host now (settings ++ (call.tag? host).toList) rest

/-! ## Tags -/

/-- A tag takes the place of the one of its name, or the last place. -/
theorem setTag_map (tag : Tag) (names : List String) (value : String → String) :
    names.Nodup →
    setTag tag (names.map fun name => (name, value name)) =
      (if tag.1 ∈ names then names else names ++ [tag.1]).map
        fun name => (name, if name = tag.1 then tag.2 else value name) := by
  induction names with
  | nil => simp [setTag]
  | cons name rest ih =>
    intro nodup
    obtain ⟨fresh, nodup⟩ := List.nodup_cons.1 nodup
    rw [List.map_cons, setTag]
    by_cases same : name = tag.1
    · -- the name stands once, so nothing behind it changes
      have kept : ∀ other ∈ rest, other ≠ tag.1 := by
        rintro other mem rfl
        exact fresh (same ▸ mem)
      have others : rest.map (fun other => (other, value other)) =
          rest.map fun other => (other, if other = tag.1 then tag.2 else value other) :=
        List.map_congr_left fun other mem => by rw [if_neg (kept other mem)]
      simp [same, others]
    · rw [if_neg same, ih nodup]
      by_cases mem : tag.1 ∈ rest <;> simp [mem, same, Ne.symm same]

theorem latest_concat (settings : List Tag) (tag : Tag) (name : String) :
    latest (settings ++ [tag]) name = if name = tag.1 then tag.2 else latest settings name := by
  obtain ⟨key, value⟩ := tag
  by_cases same : name = key
  · simp [latest, same]
  · have : (name == key) = false := by simp [same]
    simp [latest, List.lookup_cons, this, same]

@[simp]
theorem inForce_singleton (tag : Tag) : inForce [tag] = [tag] := by
  obtain ⟨name, value⟩ := tag
  simp [inForce, latest]

/-- Setting one more tag on those in force gives those in force then. -/
theorem inForce_concat (settings : List Tag) (tag : Tag) :
    inForce (settings ++ [tag]) = setTag tag (inForce settings) := by
  have nodup := List.nodup_reverse.2 (List.nodup_dedup (settings.map (·.1)).reverse)
  rw [inForce, inForce, setTag_map _ _ _ nodup]
  simp only [latest_concat, List.map_append, List.map_singleton, List.reverse_append,
    List.reverse_singleton, List.singleton_append, List.mem_reverse, List.mem_dedup]
  congr 1
  by_cases mem : tag.1 ∈ settings.map (·.1)
  · rw [if_pos mem, List.dedup_cons_of_mem (List.mem_reverse.2 mem)]
  · rw [if_neg mem, List.dedup_cons_of_notMem (mt List.mem_reverse.1 mem), List.reverse_cons]

example : inForce [("host", "a"), ("type", "telnet"), ("host", "b")] =
    [("host", "b"), ("type", "telnet")] := by decide

/-! ## Calls -/

section

variable {c : Collector} {settings : List Tag}

/-- What stays the same from call to call. -/
theorem fixed_apply (c : Collector) (call : Call) :
    (call.apply c).base = c.base ∧ (call.apply c).host = c.host ∧
      (call.apply c).timestamp = c.timestamp := by
  cases call <;> exact ⟨rfl, rfl, rfl⟩

theorem tags_apply (inOrder : c.tags = inForce settings) (call : Call) :
    (call.apply c).tags = inForce (settings ++ (call.tag? c.host).toList) := by
  cases call with
  | hostTag => simp [Call.apply, Collector.addHostTag, Collector.addTag, Call.tag?, inOrder,
      inForce_concat]
  | tag t => simp [Call.apply, Collector.addTag, Call.tag?, inOrder, inForce_concat]
  | _ => exact inOrder.trans (congrArg inForce (List.append_nil _).symm)

theorem text_apply (inOrder : c.tags = inForce settings) (call : Call) :
    (call.apply c).text = c.text ++ call.written c.base c.timestamp (inForce settings) := by
  cases call <;>
    simp [Call.apply, Call.written, Call.line?, Collector.addHostTag, Collector.recordTagged,
      Collector.line, inOrder]

/-- The text of a collector after calls: each call adds what it writes. -/
theorem text_foldl (inOrder : c.tags = inForce settings) (calls : List Call) :
    (calls.foldl Call.apply c).text =
      c.text ++ written c.base c.host c.timestamp settings calls := by
  induction calls generalizing c settings with
  | nil => simp [written]
  | cons call rest ih =>
    obtain ⟨base, host, timestamp⟩ := fixed_apply c call
    rw [List.foldl_cons, ih (tags_apply inOrder call), text_apply inOrder, base, host, timestamp,
      written, String.append_assoc]

end

section

variable (base host : String) (now : UInt64) (settings : List Tag)

@[simp]
theorem written_nil : written base host now settings [] = "" := rfl

theorem written_hostTag (rest : List Call) :
    written base host now settings (.hostTag :: rest) =
      written base host now (settings ++ [("host", host)]) rest :=
  String.empty_append

theorem written_append (a b : List Call) :
    written base host now settings (a ++ b) =
      written base host now settings a ++
        written base host now (settings ++ a.filterMap (·.tag? host)) b := by
  induction a generalizing settings with
  | nil => simp
  | cons call rest ih =>
    rw [List.cons_append, written, ih, written, String.append_assoc]
    cases tag : call.tag? host <;> simp [tag]

/-- A value that a word can hold is written as it is. -/
theorem written_record (name : String) {value : Nat} (small : value < UInt64.size)
    (rest : List Call) :
    written base host now settings (.record name (UInt64.ofNat value) :: rest) =
      lineText (base ++ "." ++ name) now.toNat value (inForce settings) ++
        written base host now settings rest := by
  simp [written, Call.written, Call.line?, Call.tag?, Line.write, lineText,
    UInt64.toNat_ofNat_of_lt' small]

theorem written_recordTagged (name : String) {value : Nat} (small : value < UInt64.size)
    (own : Tag) (rest : List Call) :
    written base host now settings (.recordTagged name (UInt64.ofNat value) own :: rest) =
      lineText (base ++ "." ++ name) now.toNat value (own :: inForce settings) ++
        written base host now settings rest := by
  simp [written, Call.written, Call.line?, Call.tag?, Line.write, lineText,
    UInt64.toNat_ofNat_of_lt' small]

end

end AdminPort.Stats

namespace AdminPort

theorem Setup.statsBody_eq_written (setup : Setup) (state : State) (now : UInt64) :
    setup.statsBody state now =
      Stats.written setup.statsBase setup.statsHost now [] (setup.statsCalls state) := by
  have untagged : ([] : List Stats.Tag) = Stats.inForce [] := rfl
  rw [statsBody, Stats.text_foldl untagged, String.empty_append]

end AdminPort
