import AdminPort.FileTree
import Mathlib.Data.List.Basic

/-!
# Which files the built-in configuration stands in for

A path that leads nowhere is the only one that the built-in configuration stands in
for. Whatever is there is loaded, and if it cannot be read or does not hold, that is
a fault: the one who named the path is told what is wrong with it.

`Leads` says what a path leads to in a tree of files. It names the first thing on the
way that the system objects to, if there is one, and says nothing of the order in
which the system looks for objections.

Results:
1. `leads_iff`: what the system says about a path is what the path leads to.
2. `fault_of_ofText`: a text that is no configuration is a fault of the one who wrote it.
3. `fallback_only_of_missing`: how every path is loaded, whatever it leads to.
-/

namespace AdminPort

/-! ## Definitions -/

namespace FileTree

/-- `Passes tree place names last`: the names lead from one place to another, and all
places before the last are directories.

* `stay`: an empty name and a point stay where they are.
* `up`: two points go up, and stay at the top.
* `down`: a name of its own goes down, whatever there is. -/
inductive Passes (tree : FileTree) : List String → List String → List String → Prop
  | nil {place : List String} : Passes tree place [] place
  | stay {place rest last : List String} {name : String} :
      tree.find? place = some .directory → isStay name = true → Passes tree place rest last →
      Passes tree place (name :: rest) last
  | up {place rest last : List String} :
      tree.find? place = some .directory → Passes tree place.dropLast rest last →
      Passes tree place (".." :: rest) last
  | down {place rest last : List String} {name : String} :
      tree.find? place = some .directory → isStay name = false → name ≠ ".." →
      name.utf8ByteSize ≤ maxName → Passes tree (place ++ [name]) rest last →
      Passes tree place (name :: rest) last

/-- A path that the system follows at all. -/
structure Followed (path : String) : Prop where
  noZero : '\x00' ∉ path.toList
  nonempty : path ≠ ""
  short : path.utf8ByteSize ≤ maxPath

/-- `Leads tree path found`: what a path leads to.

* `zero`, `empty`, `longPath`: the path is not followed at all.
* `missing`: the first names lead to a place where nothing is.
* `throughFile`: the names go on behind a file; a slash is enough.
* `longName`: the names go on in a directory with one that is too long.
* `found`: all names lead to a place where something is. -/
inductive Leads (tree : FileTree) (path : String) : Except FileFault FileEntry → Prop
  | zero : '\x00' ∈ path.toList → Leads tree path (.error .zeroInName)
  | empty : path = "" → Leads tree path (.error .notFound)
  | longPath : '\x00' ∉ path.toList → maxPath < path.utf8ByteSize →
      Leads tree path (.error .nameTooLong)
  | missing {before after place : List String} :
      Followed path → names path = before ++ after → Passes tree (tree.origin path) before place →
      tree.find? place = none → Leads tree path (.error .notFound)
  | throughFile {before after place : List String} {name : String} {content : ByteArray} :
      Followed path → names path = before ++ name :: after →
      Passes tree (tree.origin path) before place → tree.find? place = some (.file content) →
      Leads tree path (.error .notDirectory)
  | longName {before after place : List String} {name : String} :
      Followed path → names path = before ++ name :: after →
      Passes tree (tree.origin path) before place → tree.find? place = some .directory →
      isStay name = false → name ≠ ".." → maxName < name.utf8ByteSize →
      Leads tree path (.error .nameTooLong)
  | found {place : List String} {entry : FileEntry} :
      Followed path → Passes tree (tree.origin path) (names path) place →
      tree.find? place = some entry → Leads tree path (.ok entry)

/-- `Unreadable tree path fault`: no text can be read at the path, and why. -/
inductive Unreadable (tree : FileTree) (path : String) : FileFault → Prop
  | refused {fault : FileFault} : Leads tree path (.error fault) → Unreadable tree path fault
  | directory : Leads tree path (.ok .directory) → Unreadable tree path .isDirectory
  | notText {content : ByteArray} : Leads tree path (.ok (.file content)) →
      String.fromUTF8? content = none → Unreadable tree path .notText

/-- `Readable tree path text`: the path leads to a file that holds the text. -/
def Readable (tree : FileTree) (path text : String) : Prop :=
  ∃ content, Leads tree path (.ok (.file content)) ∧ String.fromUTF8? content = some text

end FileTree

open FileTree

/-- `LoadedAsFound tree path`: how a path is loaded.

* `fallback_iff`, `told`: the built-in configuration stands in for the file exactly
  if the path leads nowhere, and one entry of the journal tells the path.
* `otherwise`: in every other case the file itself decides, and nothing is told.
* `unreadable`: where no text can be read there is no configuration, and the fault
  names the path and says what the system says.
* `readable`, `invalid`: a text that can be read is all that counts, and if it is no
  configuration, the one who wrote it is at fault.
* `decided`: each path is of one of the two kinds.
* `faults`: no fault is of any other kind. -/
structure LoadedAsFound (tree : FileTree) (path : String) : Prop where
  fallback_iff : Config.ofFileOrDefault path (tree.view path) = (.ok {}, [.defaultsUsed path]) ↔
    Leads tree path (.error .notFound)
  told : (Journal.Entry.defaultsUsed path).level = .info ∧
    (Journal.Entry.defaultsUsed path).fields = [("path", .text path)]
  otherwise : ¬ Leads tree path (.error .notFound) →
    Config.ofFileOrDefault path (tree.view path) = (Config.ofFile path (tree.view path), [])
  unreadable : ∀ fault, Unreadable tree path fault →
    ∃ problem, Config.ofFile path (tree.view path) = .error problem ∧
      problem.fault = .internal ("read config failed (" ++ path ++ "): " ++ fault.reason)
  readable : ∀ text, Readable tree path text →
    Config.ofFile path (tree.view path) = Config.ofText text
  invalid : ∀ text problem, Readable tree path text → Config.ofText text = .error problem →
    problem.fault = .badRequest problem.message
  decided : (∃ fault, Unreadable tree path fault) ∨ ∃ text, Readable tree path text
  faults : ∀ problem, (Config.ofFile path (tree.view path) = .error problem ∨
      (Config.ofFileOrDefault path (tree.view path)).1 = .error problem) →
    problem.fault = .badRequest problem.message ∨ problem.fault = .internal problem.message

/-! ## Following a path -/

namespace FileTree

variable {tree : FileTree} {path : String} {place last rest : List String} {name : String}

theorem step_of_missing (gone : tree.find? place = none) :
    tree.step place name = .error .notFound := by
  rw [step, gone]

theorem step_of_file {content : ByteArray} (isFile : tree.find? place = some (.file content)) :
    tree.step place name = .error .notDirectory := by
  rw [step, isFile]

theorem step_of_directory (isDirectory : tree.find? place = some .directory) :
    tree.step place name =
      if isStay name then .ok place
      else if name = ".." then .ok place.dropLast
      else if maxName < name.utf8ByteSize then .error .nameTooLong
      else .ok (place ++ [name]) := by
  rw [step, isDirectory]
  simp only [beq_iff_eq]

/-- One name further is one of the three ways to go on. -/
theorem passes_cons_iff :
    Passes tree place (name :: rest) last ↔
      ∃ next, tree.step place name = .ok next ∧ Passes tree next rest last := by
  constructor
  · intro passes
    cases passes with
    | stay isDirectory stays onward =>
      exact ⟨_, by rw [step_of_directory isDirectory, if_pos stays], onward⟩
    | up isDirectory onward =>
      exact ⟨_, by rw [step_of_directory isDirectory]; rfl, onward⟩
    | down isDirectory own notUp short onward =>
      refine ⟨_, ?_, onward⟩
      rw [step_of_directory isDirectory, if_neg (by simp [own]), if_neg notUp,
        if_neg (Nat.not_lt.2 short)]
  · rintro ⟨next, took, onward⟩
    cases here : tree.find? place with
    | none => rw [step_of_missing here] at took; cases took
    | some entry =>
      cases entry with
      | file content => rw [step_of_file here] at took; cases took
      | directory =>
        rw [step_of_directory here] at took
        split at took
        · next stays => cases took; exact .stay here stays onward
        · next own =>
          split at took
          · next goesUp => cases took; subst goesUp; exact .up here onward
          · next notUp =>
            split at took
            · cases took
            · next short =>
              cases took
              exact .down here (by simpa using own) notUp (Nat.not_lt.1 short) onward

theorem foldlM_eq_ok_iff {names : List String} :
    names.foldlM (step tree) place = .ok last ↔ Passes tree place names last := by
  induction names generalizing place with
  | nil =>
    constructor
    · intro same
      cases same
      exact .nil
    · rintro ⟨⟩
      rfl
  | cons name rest ih =>
    rw [passes_cons_iff, List.foldlM_cons]
    cases took : tree.step place name with
    | error fault => simp [bind, Except.bind]
    | ok next => simp [bind, Except.bind, ih]

/-- Names that do not lead anywhere have a first one that is refused. -/
theorem foldlM_eq_error_iff {names : List String} {fault : FileFault} :
    names.foldlM (step tree) place = .error fault ↔
      ∃ before name after mid, names = before ++ name :: after ∧ Passes tree place before mid ∧
        tree.step mid name = .error fault := by
  constructor
  · intro refused
    induction names generalizing place with
    | nil => cases refused
    | cons name rest ih =>
      rw [List.foldlM_cons] at refused
      cases took : tree.step place name with
      | error other =>
        rw [took] at refused
        cases refused
        exact ⟨[], name, rest, place, rfl, .nil, took⟩
      | ok next =>
        rw [took] at refused
        obtain ⟨before, bad, after, mid, rfl, passes, atBad⟩ := ih refused
        exact ⟨name :: before, bad, after, mid, rfl, passes_cons_iff.2 ⟨next, took, passes⟩, atBad⟩
  · rintro ⟨before, name, after, mid, rfl, passes, refused⟩
    rw [List.foldlM_append, foldlM_eq_ok_iff.2 passes]
    simp [bind, Except.bind, refused]

/-! ## What a path leads to -/

theorem resolve_of_followed (followed : Followed path) :
    tree.resolve path =
      (names path).foldlM (step tree) (tree.origin path) >>= fun place =>
        match tree.find? place with
        | some entry => .ok entry
        | none => .error .notFound := by
  have noZero : ¬ path.toList.contains '\x00' = true := by simpa using followed.noZero
  have nonempty : ¬ path.isEmpty = true := by simpa using followed.nonempty
  exact (if_neg noZero).trans
    ((if_neg nonempty).trans (if_neg (Nat.not_lt.2 followed.short)))

theorem resolve_of_refused (followed : Followed path) {before after mid : List String}
    {fault : FileFault} (split : names path = before ++ name :: after)
    (passes : Passes tree (tree.origin path) before mid)
    (refused : tree.step mid name = .error fault) :
    tree.resolve path = .error fault := by
  rw [resolve_of_followed followed, foldlM_eq_error_iff.2 ⟨_, _, _, _, split, passes, refused⟩]
  rfl

theorem resolve_of_passes (followed : Followed path)
    (passes : Passes tree (tree.origin path) (names path) place) :
    tree.resolve path =
      match tree.find? place with
      | some entry => .ok entry
      | none => .error .notFound := by
  rw [resolve_of_followed followed, foldlM_eq_ok_iff.2 passes]
  rfl

theorem resolve_of_leads {found : Except FileFault FileEntry} (leads : Leads tree path found) :
    tree.resolve path = found := by
  cases leads with
  | zero zero => simp [resolve, zero]
  | empty empty => rw [empty, resolve_empty]
  | longPath noZero long =>
    have nonempty : path ≠ "" := by
      rintro rfl
      exact absurd long (by decide)
    simp [resolve, noZero, nonempty, long]
  | @missing before after place followed split passes gone =>
    cases after with
    | nil =>
      rw [List.append_nil] at split
      rw [resolve_of_passes followed (split ▸ passes), gone]
    | cons name after => exact resolve_of_refused followed split passes (step_of_missing gone)
  | throughFile followed split passes isFile =>
    exact resolve_of_refused followed split passes (step_of_file isFile)
  | longName followed split passes isDirectory own notUp long =>
    refine resolve_of_refused followed split passes ?_
    rw [step_of_directory isDirectory, if_neg (by simp [own]), if_neg notUp, if_pos long]
  | found followed passes here => rw [resolve_of_passes followed passes, here]

/-- A name is refused for what is in front of it or for its length. -/
theorem leads_of_refused (followed : Followed path) {before after mid : List String}
    {fault : FileFault} (split : names path = before ++ name :: after)
    (passes : Passes tree (tree.origin path) before mid)
    (refused : tree.step mid name = .error fault) :
    Leads tree path (.error fault) := by
  cases here : tree.find? mid with
  | none =>
    rw [step_of_missing here] at refused
    cases refused
    exact .missing followed split passes here
  | some entry =>
    cases entry with
    | file content =>
      rw [step_of_file here] at refused
      cases refused
      exact .throughFile followed split passes here
    | directory =>
      rw [step_of_directory here] at refused
      split_ifs at refused with stays notUp long
      cases refused
      exact .longName followed split passes here (by simpa using stays) notUp long

/-- Every path leads to something or to a fault, and that is what the system says. -/
theorem leads_resolve (tree : FileTree) (path : String) :
    Leads tree path (tree.resolve path) := by
  by_cases zero : '\x00' ∈ path.toList
  · have refused : tree.resolve path = _ := resolve_of_leads (.zero zero)
    exact refused ▸ .zero zero
  by_cases empty : path = ""
  · have refused : tree.resolve path = _ := resolve_of_leads (.empty empty)
    exact refused ▸ .empty empty
  by_cases long : maxPath < path.utf8ByteSize
  · have refused : tree.resolve path = _ := resolve_of_leads (.longPath zero long)
    exact refused ▸ .longPath zero long
  have followed : Followed path := ⟨zero, empty, Nat.not_lt.1 long⟩
  cases way : (names path).foldlM (step tree) (tree.origin path) with
  | error fault =>
    obtain ⟨before, name, after, mid, split, passes, refused⟩ := foldlM_eq_error_iff.1 way
    rw [resolve_of_refused followed split passes refused]
    exact leads_of_refused followed split passes refused
  | ok place =>
    have passes := foldlM_eq_ok_iff.1 way
    rw [resolve_of_passes followed passes]
    cases here : tree.find? place with
    | none => exact .missing followed (List.append_nil _).symm passes here
    | some entry => exact .found followed passes here

theorem leads_iff {found : Except FileFault FileEntry} :
    Leads tree path found ↔ tree.resolve path = found :=
  ⟨resolve_of_leads, fun same => same ▸ leads_resolve tree path⟩

end FileTree

/-! ## Loading -/

namespace Config

variable {path text : String} {problem : Problem} {view : FileView}

/-- No check of a configuration is about a file. -/
theorem fault_of_problem? {config : Config} (h : config.problem? = some problem) :
    problem.fault = .badRequest problem.message := by
  rw [problem?] at h
  split at h
  · cases h
    rfl
  · rcases Option.or_eq_some_iff.1 h with h | ⟨-, h⟩
    · rw [ServerSection.problem?] at h
      split_ifs at h <;> cases h <;> rfl
    · rw [StatsSection.problem?] at h
      split_ifs at h <;> cases h <;> rfl

theorem fault_of_ofText (h : ofText text = .error problem) :
    problem.fault = .badRequest problem.message := by
  unfold ofText at h
  split at h
  · cases h
    rfl
  · rw [check] at h
    split at h
    · next found =>
      cases h
      exact fault_of_problem? found
    · cases h

theorem fault_of_ofFile (h : ofFile path view = .error problem) :
    problem.fault = .badRequest problem.message ∨ problem.fault = .internal problem.message := by
  rw [ofFile] at h
  split at h
  · cases h
    exact .inr rfl
  · exact .inl (fault_of_ofText h)

theorem ofFileOrDefault_of_ne (h : view.presence ≠ .error .notFound) :
    ofFileOrDefault path view = (ofFile path view, []) := by
  rw [ofFileOrDefault]
  split
  · next gone => exact absurd gone h
  · rfl

theorem ofFileOrDefault_eq_defaults_iff :
    ofFileOrDefault path view = (.ok {}, [.defaultsUsed path]) ↔
      view.presence = .error .notFound := by
  constructor
  · intro defaults
    by_contra other
    rw [ofFileOrDefault_of_ne other] at defaults
    cases congrArg Prod.snd defaults
  · intro gone
    rw [ofFileOrDefault, gone]

theorem fault_of_ofFileOrDefault (h : (ofFileOrDefault path view).1 = .error problem) :
    problem.fault = .badRequest problem.message ∨ problem.fault = .internal problem.message := by
  by_cases gone : view.presence = .error .notFound
  · rw [ofFileOrDefault_eq_defaults_iff.2 gone] at h
    cases h
  · rw [ofFileOrDefault_of_ne gone] at h
    exact fault_of_ofFile h

end Config

namespace FileTree

variable {tree : FileTree} {path : String}

theorem presence_eq_error_iff {fault : FileFault} :
    (tree.view path).presence = .error fault ↔ Leads tree path (.error fault) := by
  rw [leads_iff, view]
  cases tree.resolve path with
  | error other => simp
  | ok entry => cases entry <;> simp

theorem text_view_of_unreadable {fault : FileFault} (h : Unreadable tree path fault) :
    (tree.view path).text = .error fault := by
  cases h with
  | refused leads => rw [view, leads_iff.1 leads]; rfl
  | directory leads => rw [view, leads_iff.1 leads]; rfl
  | notText leads notText =>
    simp [view, leads_iff.1 leads, FileView.text, notText, bind, Except.bind]

theorem text_view_of_readable {text : String} (h : Readable tree path text) :
    (tree.view path).text = .ok text := by
  obtain ⟨content, leads, isText⟩ := h
  simp [view, leads_iff.1 leads, FileView.text, isText, bind, Except.bind]

theorem unreadable_or_readable (tree : FileTree) (path : String) :
    (∃ fault, Unreadable tree path fault) ∨ ∃ text, Readable tree path text := by
  have leads := leads_resolve tree path
  cases found : tree.resolve path with
  | error fault => exact .inl ⟨fault, .refused (found ▸ leads)⟩
  | ok entry =>
    rw [found] at leads
    cases entry with
    | directory => exact .inl ⟨_, .directory leads⟩
    | file content =>
      cases isText : String.fromUTF8? content with
      | none => exact .inl ⟨_, .notText leads isText⟩
      | some text => exact .inr ⟨text, content, leads, isText⟩

end FileTree

/-- Every path is loaded as what it leads to. In particular nothing that is there is
ever replaced by the built-in configuration. -/
theorem fallback_only_of_missing (tree : FileTree) (path : String) : LoadedAsFound tree path where
  fallback_iff := Config.ofFileOrDefault_eq_defaults_iff.trans presence_eq_error_iff
  told := ⟨rfl, rfl⟩
  otherwise found := Config.ofFileOrDefault_of_ne fun gone => found (presence_eq_error_iff.1 gone)
  unreadable fault unreadable := by
    rw [Config.ofFile, text_view_of_unreadable unreadable]
    exact ⟨_, rfl, rfl⟩
  readable text readable := by rw [Config.ofFile, text_view_of_readable readable]
  invalid _ _ _ := Config.fault_of_ofText
  decided := unreadable_or_readable tree path
  faults _ h := h.elim Config.fault_of_ofFile Config.fault_of_ofFileOrDefault

end AdminPort
