import AdminPort.Config.Load
import AdminPort.Serving

/-!
# Starting up

A setting of the environment names the configuration file; without it, or if it
is no text, a file of a fixed name is loaded if there is one. A fault on the way
ends the program with its diagnostic form.
-/

namespace AdminPort.Startup

/-- Where the configuration comes from. -/
inductive Source where
  /-- A file that has to be there. -/
  | required (path : String)
  /-- A file that is used if it is there. -/
  | optional (path : String)
deriving DecidableEq, Repr

/-- The path of the file that a source is about. -/
def Source.path : Source → String
  | required path => path
  | optional path => path

/-- The setting that names the configuration file. -/
def settingName : String := "TSDADMIN_CONFIG"

/-- The setting that names the machine. -/
def machineSettingName : String := "HOSTNAME"

/-- The file that is looked for without the setting. -/
def defaultPath : String := "tsdadmin.yaml"

/-- Where the configuration comes from, by the value of the setting. -/
def source (setting : Option ByteArray) : Source :=
  match setting.bind String.fromUTF8? with
  | some path => .required path
  | none => .optional defaultPath

/-- The configuration from a source, and what the journal says about it. -/
def load (view : String → FileView) : Source → Except Config.Problem Config × List Journal.Entry
  | .required path => (Config.ofFile path (view path), [])
  | .optional path => Config.ofFileOrDefault path (view path)

/-- What the program comes to before it serves. -/
inductive Start where
  /-- It has a configuration and goes on to listen on its address. -/
  | listens (config : Config) (address : Address)
  /-- It ends with a problem. -/
  | fails (problem : Config.Problem)
deriving DecidableEq, Repr

/-- What the program comes to, by the value of the setting. -/
def start (view : String → FileView) (setting : Option ByteArray) : Start :=
  match (load view (source setting)).1 with
  | .error problem => .fails problem
  | .ok config =>
    match config.server.address? with
    | none => .fails .listenAddress
    | some address => .listens config address

/-- A service set up by a configuration on a machine, and what the journal says
about it. -/
def service (build : Build) (config : Config) (machine : Option ByteArray)
    (textProtocol : List Stats.ReportStep) : Service × List Journal.Entry :=
  let (front, journal) :=
    Front.start build config.stats.base (config.stats.resolvedHost machine) textProtocol
  ({ front, graceMillis := config.server.graceMillis }, journal)

/-- What is printed when the program cannot start. -/
def failureText (fault : Fault) : String :=
  "Error: " ++ fault.diagnostic?.getD fault.text ++ "\n"

/-- The exit code of a program that cannot start. -/
def failureCode : Nat := 1

end AdminPort.Startup
