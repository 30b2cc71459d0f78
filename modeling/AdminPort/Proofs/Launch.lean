import AdminPort.Startup
import Mathlib.Control.Monad.Basic

/-!
# Which configuration the program starts with

The program listens with the configuration that its source gives, or ends with
what is wrong with it. A setting that is a text makes the file of that path the
source, and then no other file makes a difference.

A setting that is no text is passed over as if it had not been made: the file of
the fixed name takes its place, or the built-in configuration.

Results:
1. `start_eq_listens_iff`, `start_eq_fails_iff`: the source decides.
2. `start_of_text`: a setting that is a text decides.
3. `start_of_notText`: a setting that is no text counts for nothing.
-/

namespace AdminPort.Startup

section

variable {view : String → FileView} {setting : Option ByteArray} {config : Config}

/-- A configuration from any source holds. -/
theorem problem?_of_load {source : Source} (loaded : (load view source).1 = .ok config) :
    config.problem? = none := by
  cases source with
  | required path => exact Config.problem?_of_ofFile loaded
  | optional path =>
    rw [load, Config.ofFileOrDefault] at loaded
    split at loaded
    · cases loaded
      exact Config.problem?_default
    · exact Config.problem?_of_ofFile loaded

theorem start_eq_listens_iff {address : Address} :
    start view setting = .listens config address ↔
      (load view (source setting)).1 = .ok config ∧ config.server.address? = some address := by
  rw [start]
  cases loaded : (load view (source setting)).1 with
  | error problem => simp
  | ok found =>
    obtain ⟨own, has⟩ :=
      ServerSection.exists_address (Config.sections_problem? (problem?_of_load loaded)).1
    simp only [has, Start.listens.injEq, Except.ok.injEq]
    constructor
    · rintro ⟨rfl, rfl⟩
      exact ⟨rfl, has⟩
    · rintro ⟨rfl, has'⟩
      exact ⟨rfl, Option.some.inj (has.symm.trans has')⟩

/-- A configuration that is loaded never fails on its address. -/
theorem start_eq_fails_iff {problem : Config.Problem} :
    start view setting = .fails problem ↔ (load view (source setting)).1 = .error problem := by
  rw [start]
  cases loaded : (load view (source setting)).1 with
  | error other => simp
  | ok found =>
    obtain ⟨own, has⟩ :=
      ServerSection.exists_address (Config.sections_problem? (problem?_of_load loaded)).1
    simp [has]

end

/-- A setting that is a text decides: the program listens with the configuration in
the file that it names, or ends with what is wrong with that file, and no other
file makes a difference. -/
theorem start_of_text {setting : ByteArray} {path : String}
    (text : String.fromUTF8? setting = some path) (view : String → FileView) :
    (∀ config address, start view (some setting) = .listens config address ↔
        Config.ofFile path (view path) = .ok config ∧ config.server.address? = some address) ∧
      (∀ problem, start view (some setting) = .fails problem ↔
        Config.ofFile path (view path) = .error problem) ∧
      ∀ other : String → FileView, other path = view path →
        start other (some setting) = start view (some setting) := by
  have named : source (some setting) = .required path := by simp [source, text]
  refine ⟨?_, ?_, ?_⟩
  · intro config address
    rw [start_eq_listens_iff, named, load]
  · intro problem
    rw [start_eq_fails_iff, named, load]
  · intro other same
    rw [start, start, named, load, load, same]

/-- What the system says about paths when there are only the given files. -/
def exFiles (files : List (String × String)) (path : String) : FileView :=
  match files.lookup path with
  | some text => ⟨.ok (), .ok text.toUTF8⟩
  | none => ⟨.error .notFound, .error .notFound⟩

/-- The file that is named is loaded, though the one of the fixed name does not hold. -/
theorem start_of_text_exFiles :
    let view := exFiles [("own.yaml", "version: 1\nserver:\n  listen: 127.0.0.1:80\n"),
      (defaultPath, "version: 2\n")]
    let config : Config := { server := { listen := "127.0.0.1:80" } }
    String.fromUTF8? "own.yaml".toUTF8 = some "own.yaml" ∧
      start view (some "own.yaml".toUTF8) = .listens config (.v4 ⟨127, 0, 0, 1⟩ 80) := by
  intro view config
  have text : String.fromUTF8? "own.yaml".toUTF8 = some "own.yaml" := by decide +kernel
  have loaded : Config.ofFile "own.yaml" (view "own.yaml") = .ok config := by decide +kernel
  have address : config.server.address? = some (.v4 ⟨127, 0, 0, 1⟩ 80) := by decide +kernel
  obtain ⟨listens, -, -⟩ := start_of_text text view
  exact ⟨text, (listens config _).2 ⟨loaded, address⟩⟩

/-- A setting that is no text counts for nothing. -/
theorem start_of_notText {setting : ByteArray} (notText : String.fromUTF8? setting = none)
    (view : String → FileView) : start view (some setting) = start view none := by
  have unnamed : source (some setting) = source none := by simp [source, notText]
  rw [start, start, unnamed]

/-- A setting of one byte that is no text leaves the choice to the file of the fixed
name: with it the program ends, and without it the program listens. -/
theorem start_depends_of_notText :
    let setting : ByteArray := ⟨#[0xff]⟩
    String.fromUTF8? setting = none ∧
      start (exFiles [(defaultPath, "version: 2\n")]) (some setting) =
        .fails (.unsupportedVersion 2) ∧
      start (exFiles []) (some setting) = .listens {} (.v4 ⟨0, 0, 0, 0⟩ 4242) ∧
      ¬ ∀ (setting : ByteArray) (view other : String → FileView),
        String.fromUTF8? setting ≠ some defaultPath →
        (∀ path, path ≠ defaultPath → other path = view path) →
        start other (some setting) = start view (some setting) := by
  intro setting
  have notText : String.fromUTF8? setting = none := by decide +kernel
  have ends : start (exFiles [(defaultPath, "version: 2\n")]) (some setting) =
      .fails (.unsupportedVersion 2) := by decide +kernel
  have listens : start (exFiles []) (some setting) = .listens {} (.v4 ⟨0, 0, 0, 0⟩ 4242) := by
    decide +kernel
  have elsewhere : ∀ path, path ≠ defaultPath →
      exFiles [(defaultPath, "version: 2\n")] path = exFiles [] path := by
    intro path other
    have : (path == defaultPath) = false := by simpa using other
    simp [exFiles, List.lookup_cons, this]
  refine ⟨notText, ends, listens, fun claimed => ?_⟩
  have same := claimed setting _ _ (by simp [notText]) elsewhere
  rw [ends, listens] at same
  cases same

end AdminPort.Startup
