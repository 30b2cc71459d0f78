import AdminPort.Config.Schema
import AdminPort.Journal

/-!
# Loading a configuration

A configuration is loaded from a text, from a file, or from a file if there is
one. Only a file that is not there is replaced by the built-in configuration; one
that cannot be read or does not hold is a fault.

Results:
1. `problem?_of_ofText`, `problem?_of_ofFile`: a configuration that is loaded holds.
-/

namespace AdminPort

/-- Why the system refuses a path or its content. -/
inductive FileFault where
  | notFound
  | notDirectory
  | isDirectory
  | nameTooLong
  | zeroInName
  | notText
  | other (reason : String)
deriving DecidableEq, Repr

/-- The words of the system for a fault. -/
def FileFault.reason : FileFault → String
  | notFound => "No such file or directory (os error 2)"
  | notDirectory => "Not a directory (os error 20)"
  | isDirectory => "Is a directory (os error 21)"
  | nameTooLong => "File name too long (os error 36)"
  | zeroInName => "file name contained an unexpected NUL byte"
  | notText => "stream did not contain valid UTF-8"
  | other reason => reason

/-- What the system says about a path: whether something is there, and its content. -/
structure FileView where
  presence : Except FileFault Unit
  content : Except FileFault ByteArray

/-- The content as text. -/
def FileView.text (view : FileView) : Except FileFault String := do
  match String.fromUTF8? (← view.content) with
  | some text => .ok text
  | none => .error .notText

namespace Config

/-- The configuration that a text is. -/
def ofText (text : String) : Except Problem Config :=
  match Schema.readDocument (Yaml.Document.ofText text) with
  | .error fault => .error (.document fault)
  | .ok config => config.check

/-- The configuration in a file. -/
def ofFile (path : String) (view : FileView) : Except Problem Config :=
  match view.text with
  | .error fault => .error (.unreadable path fault.reason)
  | .ok text => ofText text

/-- The configuration in a file, or the built-in one if there is no file; then the
journal says so. -/
def ofFileOrDefault (path : String) (view : FileView) :
    Except Problem Config × List Journal.Entry :=
  match view.presence with
  | .error .notFound => (.ok {}, [.defaultsUsed path])
  | _ => (ofFile path view, [])

theorem problem?_of_ofText {text : String} {config : Config} (h : ofText text = .ok config) :
    config.problem? = none := by
  unfold ofText at h
  split at h
  · cases h
  · next read =>
    rw [check] at h
    split at h
    · cases h
    · next holds =>
      cases h
      exact holds

theorem problem?_of_ofFile {path : String} {view : FileView} {config : Config}
    (h : ofFile path view = .ok config) : config.problem? = none := by
  unfold ofFile at h
  split at h
  · cases h
  · exact problem?_of_ofText h

end Config

end AdminPort
