import AdminPort.Proofs.Lines

/-!
# What a collector has written

A collector is called to set tags, to record values and to take over text, in any
order. What it has written after such calls is what was there before and then, in
the order of the calls, one piece for each of them. The piece of a recorded value
shows the tags that were set before: every name once, in the order in which the
names were set first, with the value that was set last. Tags that are set later
show in later pieces only.

Results:
1. `standing_iff`: the tags in force are those names, in that order, with those values.
2. `appends_iff`: the piece that a call appends.
3. `collected_piecewise`: what is written after any calls.
-/

namespace AdminPort.Stats

/-! ## Definitions -/

/-- `IsLatest settings tag`: the tag was set, and its name was not set again. -/
def IsLatest (settings : List Tag) (tag : Tag) : Prop :=
  ∃ before after, settings = before ++ tag :: after ∧ ∀ later ∈ after, later.1 ≠ tag.1

/-- `Standing settings tags`: after the settings these tags are in force, in this order.

* `distinct`: no name stands twice.
* `inOrder`: the names stand in the order in which they were set first.
* `latest`: they have the values that they were set to last, and no name is missing. -/
structure Standing (settings tags : List Tag) : Prop where
  distinct : (tags.map (·.1)).Nodup
  inOrder : (tags.map (·.1)).Pairwise fun a b =>
    (settings.map (·.1)).idxOf a < (settings.map (·.1)).idxOf b
  latest : ∀ tag, tag ∈ tags ↔ IsLatest settings tag

/-- The tags that calls set on a collector for a host, in order. -/
def settings (host : String) (calls : List Call) : List Tag :=
  calls.filterMap (·.tag? host)

/-- `Appends base host now past call piece`: behind the calls of the past a call
appends this piece.

* `hostTag`, `tag`: tags are set without a word.
* `emit`: text is taken over as it is.
* `record`, `recordTagged`: a value is a line that ends with the tags in force, after
  a tag of its own if it has one. -/
inductive Appends (base host : String) (now : UInt64) (past : List Call) : Call → String → Prop
  | hostTag : Appends base host now past .hostTag ""
  | tag (t : Tag) : Appends base host now past (.tag t) ""
  | emit (text : String) : Appends base host now past (.emit text) text
  | record {tags : List Tag} (name : String) (value : UInt64) :
      Standing (settings host past) tags →
      Appends base host now past (.record name value)
        (lineText (base ++ "." ++ name) now.toNat value.toNat tags)
  | recordTagged {tags : List Tag} (name : String) (value : UInt64) (own : Tag) :
      Standing (settings host past) tags →
      Appends base host now past (.recordTagged name value own)
        (lineText (base ++ "." ++ name) now.toNat value.toNat (own :: tags))

/-- The pieces that calls append after settings, in order. -/
def pieces (base host : String) (now : UInt64) : List Tag → List Call → List String
  | _, [] => []
  | settings, call :: rest =>
    call.written base now (inForce settings) ::
      pieces base host now (settings ++ (call.tag? host).toList) rest

/-! ## Tags in force -/

section

variable {settings tags : List Tag} {tag : Tag}

theorem isLatest_concat (last : Tag) :
    IsLatest (settings ++ [last]) tag ↔ tag = last ∨ last.1 ≠ tag.1 ∧ IsLatest settings tag := by
  constructor
  · rintro ⟨before, after, cut, never⟩
    rcases List.eq_nil_or_concat after with rfl | ⟨after, t, rfl⟩
    · exact .inl (List.append_singleton_inj.1 cut).2.symm
    · rw [List.concat_eq_append, ← List.cons_append, ← List.append_assoc,
        List.append_singleton_inj] at cut
      obtain ⟨rfl, rfl⟩ := cut
      simp only [List.concat_eq_append, List.forall_mem_append, List.forall_mem_singleton] at never
      exact .inr ⟨never.2, before, after, rfl, never.1⟩
  · rintro (rfl | ⟨ne, before, after, rfl, never⟩)
    · exact ⟨settings, [], rfl, by simp⟩
    · refine ⟨before, after ++ [last], by simp, ?_⟩
      exact List.forall_mem_append.2 ⟨never, List.forall_mem_singleton.2 ne⟩

theorem mem_inForce : tag ∈ inForce settings ↔
    tag.1 ∈ settings.map (·.1) ∧ latest settings tag.1 = tag.2 := by
  obtain ⟨name, value⟩ := tag
  simp [inForce, eq_comm]

theorem mem_inForce_iff : tag ∈ inForce settings ↔ IsLatest settings tag := by
  rw [mem_inForce]
  induction settings using List.reverseRecOn with
  | nil => simp [IsLatest]
  | append_singleton settings last ih =>
    rw [isLatest_concat, ← ih, latest_concat, List.map_append, List.mem_append]
    obtain ⟨name, value⟩ := tag
    obtain ⟨lastName, lastValue⟩ := last
    by_cases same : name = lastName
    · simp [same, eq_comm]
    · simp [same, Ne.symm same]

theorem pairwise_firsts (names : List String) :
    names.reverse.dedup.reverse.Pairwise fun a b => names.idxOf a < names.idxOf b := by
  induction names using List.reverseRecOn with
  | nil => exact .nil
  | append_singleton names last ih =>
    -- one more name behind the others moves none of them
    have kept : names.reverse.dedup.reverse.Pairwise fun a b =>
        (names ++ [last]).idxOf a < (names ++ [last]).idxOf b := by
      refine ih.imp_of_mem fun {a b} ha hb less => ?_
      simp only [List.mem_reverse, List.mem_dedup] at ha hb
      rwa [List.idxOf_append_of_mem ha, List.idxOf_append_of_mem hb]
    rw [List.reverse_append, List.reverse_singleton, List.singleton_append]
    by_cases known : last ∈ names
    · rwa [List.dedup_cons_of_mem (List.mem_reverse.2 known)]
    · rw [List.dedup_cons_of_notMem (mt List.mem_reverse.1 known), List.reverse_cons,
        List.pairwise_append]
      refine ⟨kept, List.pairwise_singleton _ _, fun a mem b single => ?_⟩
      simp only [List.mem_reverse, List.mem_dedup] at mem
      rw [List.mem_singleton.1 single, List.idxOf_append_of_mem mem,
        List.idxOf_append_of_notMem known, List.idxOf_cons_self]
      exact List.idxOf_lt_length_of_mem mem

theorem map_fst_inForce (settings : List Tag) :
    (inForce settings).map (·.1) = (settings.map (·.1)).reverse.dedup.reverse := by
  simp [inForce, Function.comp_def]

theorem standing_inForce (settings : List Tag) : Standing settings (inForce settings) where
  distinct := by
    rw [map_fst_inForce, List.nodup_reverse]
    exact List.nodup_dedup _
  inOrder := by
    rw [map_fst_inForce]
    exact pairwise_firsts _
  latest _ := mem_inForce_iff

theorem standing_iff : Standing settings tags ↔ tags = inForce settings := by
  refine ⟨fun standing => ?_, fun same => same ▸ standing_inForce settings⟩
  have order {tags : List Tag} (standing : Standing settings tags) : tags.Pairwise fun a b =>
      (settings.map (·.1)).idxOf a.1 < (settings.map (·.1)).idxOf b.1 := by
    have inOrder := standing.inOrder
    rwa [List.pairwise_map] at inOrder
  have other := standing_inForce settings
  -- both hold the same tags, and the names have one order
  have perm : tags.Perm (inForce settings) :=
    (List.perm_ext_iff_of_nodup (.of_map _ standing.distinct) (.of_map _ other.distinct)).2
      fun tag => (standing.latest tag).trans (other.latest tag).symm
  refine perm.eq_of_pairwise (fun a b _ _ less greater => ?_) (order standing) (order other)
  exact absurd less (Nat.lt_asymm greater)

end

/-! ## Pieces -/

section

variable {base host : String} {now : UInt64} {past : List Call} {call : Call} {piece : String}

theorem appends_iff :
    Appends base host now past call piece ↔
      piece = call.written base now (inForce (settings host past)) := by
  constructor
  · rintro (_ | _ | _ | ⟨name, value, standing⟩ | ⟨name, value, own, standing⟩)
    · rfl
    · rfl
    · rfl
    · rw [standing_iff.1 standing]
      rfl
    · rw [standing_iff.1 standing]
      rfl
  · rintro rfl
    cases call with
    | hostTag => exact .hostTag
    | tag t => exact .tag t
    | emit text => exact .emit text
    | record name value => exact .record name value (standing_inForce _)
    | recordTagged name value own => exact .recordTagged name value own (standing_inForce _)

variable (base host now) (set : List Tag)

theorem length_pieces (calls : List Call) :
    (pieces base host now set calls).length = calls.length := by
  induction calls generalizing set with
  | nil => rfl
  | cons call rest ih => rw [pieces, List.length_cons, ih, List.length_cons]

theorem join_pieces (calls : List Call) :
    String.join (pieces base host now set calls) = written base host now set calls := by
  induction calls generalizing set with
  | nil => rfl
  | cons call rest ih => rw [pieces, String.join_cons, ih, written]

theorem pieces_append (a b : List Call) :
    pieces base host now set (a ++ b) =
      pieces base host now set a ++ pieces base host now (set ++ settings host a) b := by
  induction a generalizing set with
  | nil => simp [pieces, settings]
  | cons call rest ih =>
    rw [List.cons_append, pieces, ih, pieces, List.cons_append]
    cases tag : call.tag? host <;> simp [settings, tag]

/-- The piece of a call stands behind the pieces of its past. -/
theorem getElem?_pieces (past later : List Call) (call : Call) :
    (pieces base host now [] (past ++ call :: later))[past.length]? =
      some (call.written base now (inForce (settings host past))) := by
  rw [pieces_append, List.getElem?_append_right (Nat.le_of_eq (length_pieces ..)),
    length_pieces, Nat.sub_self]
  rfl

end

/-! ## Main result -/

/-- A collector that starts without tags has written, after any calls, what was there
before and then one piece for each call, in their order. The piece of a call is what the
call appends to the text so far: it goes by the call and by the tags of the calls before
it alone. -/
theorem collected_piecewise (base host initial : String) (now : UInt64) (calls : List Call) :
    let text (calls : List Call) := (calls.foldl Call.apply
      { base, host, timestamp := now, text := initial : Collector }).text
    ∃ pieces : List String, pieces.length = calls.length ∧
      text calls = initial ++ String.join pieces ∧
      ∀ past call later, calls = past ++ call :: later →
        ∃ piece, pieces[past.length]? = some piece ∧
          text (past ++ [call]) = text past ++ piece ∧
          ∀ other, Appends base host now past call other ↔ other = piece := by
  intro text
  have whole (calls : List Call) : text calls = initial ++ written base host now [] calls :=
    text_foldl rfl calls
  refine ⟨pieces base host now [] calls, length_pieces .., ?_, ?_⟩
  · rw [whole, join_pieces]
  · rintro past call later rfl
    refine ⟨_, getElem?_pieces base host now past later call, ?_, fun other => appends_iff⟩
    have last (set : List Tag) : written base host now set [call] =
        call.written base now (inForce set) := String.append_empty
    rw [whole, whole, written_append, last, String.append_assoc, List.nil_append, settings]

/-- Calls between which tags are set, the host by hand the second time. -/
def exCalls : List Call :=
  [.record "early" 1, .hostTag, .tag ("dc", "a"), .recordTagged "tagged" 2 ("type", "all"),
    .tag ("host", "other"), .emit "raw", .tag ("dc", "b")]

/-- A value that is recorded after the calls shows each tag once, in the order of the
first settings and with the last values. -/
theorem collected_piecewise_exCalls :
    let call : Call := .record "late" 3
    let text (calls : List Call) := (calls.foldl Call.apply
      { base := "tsd", host := "h", timestamp := 1000, text := "head" : Collector }).text
    exCalls ++ [call] = exCalls ++ call :: [] ∧
      Appends "tsd" "h" 1000 exCalls call "tsd.late 1000 3 host=other dc=b\n" ∧
      text (exCalls ++ [call]) = text exCalls ++ "tsd.late 1000 3 host=other dc=b\n" := by
  intro call text
  have appends : Appends "tsd" "h" 1000 exCalls call "tsd.late 1000 3 host=other dc=b\n" :=
    appends_iff.2 (by decide +kernel)
  obtain ⟨_, -, -, each⟩ := collected_piecewise "tsd" "h" "head" 1000 (exCalls ++ [call])
  obtain ⟨piece, -, appended, only⟩ := each exCalls call [] rfl
  rw [← (only _).1 appends] at appended
  exact ⟨rfl, appends, appended⟩

end AdminPort.Stats
