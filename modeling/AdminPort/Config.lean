import AdminPort.Address.Reader
import AdminPort.Fault
import AdminPort.Text.Blank
import AdminPort.Yaml.Mismatch

/-!
# Configuration

Where the daemon listens, how long it lets requests drain before it stops, and
under which name and host it reports statistics.

A configuration holds if its version is the known one, its address can be
listened on, its grace period is in range, and the names that go into lines of
statistics are words, so that the lines can be taken apart again.

Results:
1. `Config.problem?_default`: the built-in configuration holds.
2. `ServerSection.exists_address`: a configuration that holds has an address to listen on.
3. `StatsSection.isWord_base`, `StatsSection.isWord_resolvedHost`: its base and its host
   are words.
-/

namespace AdminPort

/-- Where and how long the daemon serves. -/
structure ServerSection where
  listen : String := "0.0.0.0:4242"
  graceMillis : Nat := 5000
deriving DecidableEq, Repr

/-- How the daemon names itself in statistics. -/
structure StatsSection where
  /-- What every metric name starts with. -/
  base : String := "tsd"
  host : Option String := none
deriving DecidableEq, Repr

/-- A configuration. -/
structure Config where
  version : Nat := 1
  server : ServerSection := {}
  stats : StatsSection := {}
deriving DecidableEq, Repr

namespace Config

/-- What is wrong with a configuration or its file. -/
inductive Problem where
  | unsupportedVersion (version : Nat)
  | listenAddress
  | graceRange
  | statsBase
  | statsHost
  | document (fault : Yaml.DocumentFault)
  | unreadable (path reason : String)
deriving DecidableEq, Repr

/-- The message about a problem. -/
def Problem.message : Problem → String
  | unsupportedVersion version =>
    "unsupported config version: " ++ Text.Numeral.decimal version
  | listenAddress => "server.listen must be a valid SocketAddr: " ++ Address.invalidMessage
  | graceRange => "server.shutdown_grace_ms must be between 100 and 60000"
  | statsBase => "stats.prefix must be non-empty and contain no whitespace"
  | statsHost => "stats.host must be non-empty and contain no whitespace"
  | document fault => "invalid yaml: " ++ fault.describe
  | unreadable path reason => "read config failed (" ++ path ++ "): " ++ reason

/-- A file that cannot be read is no fault of the one who wrote it. -/
def Problem.fault (problem : Problem) : Fault :=
  match problem with
  | unreadable .. => .internal problem.message
  | _ => .badRequest problem.message

/-- The version of configurations that is known. -/
def knownVersion : Nat := 1

/-- The least grace period in milliseconds. -/
def leastGrace : Nat := 100

/-- The greatest grace period in milliseconds. -/
def greatestGrace : Nat := 60000

end Config

/-- The address to listen on. -/
def ServerSection.address? (s : ServerSection) : Option Address := Address.ofString? s.listen

/-- The first problem of the section about serving. -/
def ServerSection.problem? (s : ServerSection) : Option Config.Problem :=
  if s.address?.isNone then some .listenAddress
  else if s.graceMillis < Config.leastGrace ∨ Config.greatestGrace < s.graceMillis then
    some .graceRange
  else none

/-- The first problem of the section about statistics. -/
def StatsSection.problem? (s : StatsSection) : Option Config.Problem :=
  if !Text.isWord s.base then some .statsBase
  else if s.host.any fun host => !Text.isWord host then some .statsHost
  else none

/-- The host that statistics are reported under: the configured one, else the
name of the machine if it is a word, else the local one. -/
def StatsSection.resolvedHost (s : StatsSection) (machine : Option ByteArray) : String :=
  let named := (machine.bind String.fromUTF8?).filter Text.isWord
  (s.host.or named).getD "localhost"

/-- The first problem of a configuration, section by section. -/
def Config.problem? (c : Config) : Option Config.Problem :=
  if c.version ≠ Config.knownVersion then some (.unsupportedVersion c.version)
  else c.server.problem?.or c.stats.problem?

/-- The configuration itself, if it holds. -/
def Config.check (c : Config) : Except Config.Problem Config :=
  match c.problem? with
  | some problem => .error problem
  | none => .ok c

theorem Config.problem?_default : Config.problem? {} = none := by decide +kernel

theorem Config.sections_problem? {c : Config} (h : c.problem? = none) :
    c.server.problem? = none ∧ c.stats.problem? = none := by
  rw [problem?] at h
  split at h
  · cases h
  · exact Option.or_eq_none_iff.1 h

theorem ServerSection.exists_address {s : ServerSection} (h : s.problem? = none) :
    ∃ address, s.address? = some address := by
  rw [problem?] at h
  split at h
  · cases h
  · next found => exact Option.ne_none_iff_exists'.1 (by simpa using found)

theorem StatsSection.isWord_base {s : StatsSection} (h : s.problem? = none) :
    Text.isWord s.base = true := by
  rw [problem?] at h
  split at h
  · cases h
  · next word => simpa using word

theorem StatsSection.isWord_resolvedHost {s : StatsSection} (h : s.problem? = none)
    (machine : Option ByteArray) : Text.isWord (s.resolvedHost machine) = true := by
  unfold problem? at h
  split at h
  · cases h
  · split at h
    · cases h
    · next notHost =>
      unfold resolvedHost
      cases host : s.host with
      | some name => simpa [host] using notHost
      | none =>
        cases named : (machine.bind String.fromUTF8?).filter Text.isWord with
        | none => simp; decide
        | some name => simpa using (Option.filter_eq_some_iff.1 named).2

end AdminPort
