import AdminPort.Proofs.JsonReading
import AdminPort.Proofs.ReplyLaw

/-!
# What is told about the build

The build data go out in one of two forms. To a target that ends in "json" they are one
line of JSON, from which the seven public fields can be read back whatever characters
they hold, the time to the second. To any other target they are two lines of text, as
long as nothing that they show breaks a line by itself.

Results:
1. `Build.read_json`, `Build.json_inj`: the fields can be read back.
2. `Build.twoLines_text`: when the text is two lines.
3. `build_told`: both forms of the answer.
-/

namespace AdminPort

/-! ## Definitions -/

/-- `TwoLines s`: the text is two lines, neither of them empty, each ended by a line feed. -/
def TwoLines (s : String) : Prop :=
  ∃ first second : String, s = first ++ "\n" ++ second ++ "\n" ∧ first ≠ "" ∧ second ≠ "" ∧
    '\n' ∉ first.toList ∧ '\n' ∉ second.toList

namespace Build

/-- The texts from outside that the two lines show. -/
def shown (b : Build) : List String :=
  [b.version, b.shortRevision, b.user, b.host, b.repo]

/-- `Agree a b`: the public fields of two builds are the same. -/
structure Agree (a b : Build) : Prop where
  fullRevision : a.fullRevision = b.fullRevision
  host : a.host = b.host
  repo : a.repo = b.repo
  status : a.status = b.status
  shortRevision : a.shortRevision = b.shortRevision
  timestamp : a.timestamp = b.timestamp
  user : a.user = b.user

end Build

/-! ## JSON -/

theorem RepoStatus.name_inj {a b : RepoStatus} : a.name = b.name ↔ a = b := by
  cases a <;> cases b <;> decide

namespace Build

open Text.Json in
theorem read_json (b : Build) :
    read b.json = some (.object
      [("full_revision", .text b.fullRevision), ("host", .text b.host), ("repo", .text b.repo),
        ("repo_status", .text b.status.name), ("short_revision", .text b.shortRevision),
        ("timestamp", .number b.timestamp.toNat 0), ("user", .text b.user)]) :=
  read_object b.members

theorem json_inj {a b : Build} : a.json = b.json ↔ Agree a b := by
  constructor
  · intro same
    have read : Text.Json.read a.json = Text.Json.read b.json := congrArg _ same
    simp only [read_json, Option.some.injEq, Text.Json.Tree.object.injEq, List.cons.injEq,
      Prod.mk.injEq, Text.Json.Tree.text.injEq, Text.Json.Tree.number.injEq, true_and, and_true,
      RepoStatus.name_inj, Int.ofNat_inj, UInt64.toNat_inj] at read
    obtain ⟨fullRevision, host, repo, status, shortRevision, timestamp, user⟩ := read
    exact { fullRevision, host, repo, status, shortRevision, timestamp, user }
  · intro agree
    simp only [json, members, agree.fullRevision, agree.host, agree.repo, agree.status,
      agree.shortRevision, agree.timestamp, agree.user]

end Build

/-! ## Two lines -/

theorem twoLines_iff {first second : String} (h : first ≠ "") (h' : second ≠ "") :
    TwoLines (first ++ "\n" ++ second ++ "\n") ↔
      '\n' ∉ first.toList ∧ '\n' ∉ second.toList := by
  have count (first second : String) :
      (first ++ "\n" ++ second ++ "\n").toList.count '\n' =
        first.toList.count '\n' + second.toList.count '\n' + 2 := by
    have feed : "\n".toList.count '\n' = 1 := rfl
    simp only [String.toList_append, List.count_append, feed]
    omega
  constructor
  · rintro ⟨a, b, same, -, -, ha, hb⟩
    -- two line feeds are all there are, so the texts hold none
    have total := congrArg (·.toList.count '\n') same
    simp only [count, List.count_eq_zero.2 ha, List.count_eq_zero.2 hb] at total
    rw [← List.count_eq_zero, ← List.count_eq_zero]
    omega
  · rintro ⟨free, free'⟩
    exact ⟨first, second, rfl, h, h', free, free'⟩

namespace Build

variable (b : Build)

theorem not_mem_revisionText : '\n' ∉ b.revisionText.toList ↔
    '\n' ∉ b.version.toList ∧ '\n' ∉ b.shortRevision.toList := by
  have status : '\n' ∉ b.status.name.toList := by cases b.status <;> decide
  unfold revisionText
  simp [status]

theorem not_mem_placeText : '\n' ∉ b.placeText.toList ↔
    '\n' ∉ b.user.toList ∧ '\n' ∉ b.host.toList ∧ '\n' ∉ b.repo.toList := by
  have time := Text.not_mem_of_isWord (Text.Numeral.isWord_decimal b.timestamp.toNat)
    (show Text.isBlank '\n' = true by decide)
  unfold placeText
  simp [time]

theorem twoLines_text : TwoLines b.text ↔ ∀ s ∈ b.shown, '\n' ∉ s.toList := by
  have nonempty : b.revisionText ≠ "" ∧ b.placeText ≠ "" := by
    unfold revisionText placeText
    simp
  rw [text, twoLines_iff nonempty.1 nonempty.2, not_mem_revisionText, not_mem_placeText]
  simp [shown, and_assoc]

end Build

/-! ## The answer -/

/-- The build data are told as they are. To a target that ends in "json" the answer is
one line of JSON: an object of the seven public fields in the order of their names, each
with the value it has. So two builds have one answer just if these fields agree. To any
other target the answer is plain text, and it is two lines just if none of the texts that
it shows breaks a line. -/
theorem build_told {setup : Setup} {request : Http.Request}
    (met : Meets setup request (.command .version)) (clock : Clock) (state : State)
    (conn : Handle) :
    let response := (dispatch setup clock state request conn).response
    let b := setup.build
    ((∃ front, request.uri = front ++ "json") →
      response.status = 200 ∧ response.contentType = some "application/json" ∧
        (∀ c ∈ response.body.toList, 0x20 ≤ c.toNat) ∧
        Text.Json.read response.body = some (.object
          [("full_revision", .text b.fullRevision), ("host", .text b.host),
            ("repo", .text b.repo), ("repo_status", .text b.status.name),
            ("short_revision", .text b.shortRevision),
            ("timestamp", .number b.timestamp.toNat 0), ("user", .text b.user)]) ∧
        ∀ other : Build, other.json = response.body ↔ other.Agree b) ∧
    ((¬ ∃ front, request.uri = front ++ "json") →
      response.status = 200 ∧ response.contentType = some "text/plain; charset=UTF-8" ∧
        (TwoLines response.body ↔ ∀ s ∈ b.shown, '\n' ∉ s.toList)) := by
  intro response b
  have answer : response = _ := response_of_version met
  refine ⟨fun asked => ?_, fun otherwise => ?_⟩
  · rw [setup.buildReply_of_json asked] at answer
    rw [answer]
    exact ⟨rfl, rfl, fun c => Text.Json.le_of_mem_object, b.read_json, fun _ => Build.json_inj⟩
  · rw [setup.buildReply_of_text otherwise] at answer
    rw [answer]
    exact ⟨rfl, rfl, b.twoLines_text⟩

/-- The example daemon, built by someone whose name has to be escaped, at the end of time. -/
def exEscaped : Setup :=
  { exSetup with
    build := { exSetup.build with user := "a \"b\"\\\n", host := "größe", timestamp := -1 } }

/-- The fields come back out of the JSON as they are. The text of the same build is three
lines, since the name of the builder breaks one. -/
theorem build_told_exEscaped :
    let json : Http.Request := ⟨"GET", ⟨none, "", "/version", some "json"⟩, [], ""⟩
    let plain := exGet "/version"
    let response request := (dispatch exEscaped exClock (State.initial []) request exConn).response
    Meets exEscaped json (.command .version) ∧ (∃ front, json.uri = front ++ "json") ∧
      Text.Json.read (response json).body = some (.object
        [("full_revision", .text "abc1234def"), ("host", .text "größe"), ("repo", .text "/src"),
          ("repo_status", .text "MINTED"), ("short_revision", .text "abc1234"),
          ("timestamp", .number 18446744073709551615 0), ("user", .text "a \"b\"\\\n")]) ∧
      Meets exEscaped plain (.command .version) ∧ (¬ ∃ front, plain.uri = front ++ "json") ∧
      (response plain).contentType = some "text/plain; charset=UTF-8" ∧
      ¬ TwoLines (response plain).body := by
  intro json plain response
  have met : Meets exEscaped json (.command .version) := by decide +kernel
  have met' : Meets exEscaped plain (.command .version) := by decide +kernel
  have asked : ∃ front, json.uri = front ++ "json" := ⟨"/version?", by decide⟩
  have otherwise : ¬ ∃ front, plain.uri = front ++ "json" := mt suffix_iff.2 (by decide)
  obtain ⟨-, -, -, read, -⟩ := (build_told met exClock (State.initial []) exConn).1 asked
  obtain ⟨-, media, lines⟩ := (build_told met' exClock (State.initial []) exConn).2 otherwise
  exact ⟨met, asked, read, met', otherwise, media, mt lines.1 (by decide)⟩

end AdminPort
