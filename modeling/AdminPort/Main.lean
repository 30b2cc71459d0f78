import AdminPort.Serving
import AdminPort.Startup
import Std.Time.DateTime.Timestamp

/-!
# The program

Loads the configuration and serves until the server stops. A request comes as a
line on the standard input, which is its target, and is answered on the standard
output by the status and the body. Each line is a visit of its own. The end of
the input ends the program too.
-/

namespace AdminPort.Program

/-- Why a file was refused. -/
def faultOf : IO.Error → FileFault
  | .noFileOrDirectory .. => .notFound
  | .inappropriateType _ 20 _ => .notDirectory
  | .inappropriateType _ 21 _ => .isDirectory
  | .invalidArgument _ 36 _ => .nameTooLong
  | .resourceExhausted _ 36 _ => .nameTooLong
  | fault => .other (toString fault)

/-- What the system says about a path. -/
def look (path : String) : IO FileView := do
  if path.toList.contains '\x00' then return ⟨.error .zeroInName, .error .zeroInName⟩
  match ← (IO.FS.readBinFile path).toBaseIO with
  | .ok content => return ⟨.ok (), .ok content⟩
  | .error fault => return ⟨.error (faultOf fault), .error (faultOf fault)⟩

/-- A setting of the environment. -/
def setting (name : String) : IO (Option ByteArray) := return (← IO.getEnv name).map String.toUTF8

/-- The time in seconds. -/
def now : IO UInt64 :=
  return .ofNat (← Std.Time.Timestamp.now).toSecondsSinceUnixEpoch.val.toNat

/-- The status and the body of a response. -/
def answer (response : Response) : String :=
  Text.Numeral.decimal response.status ++ " " ++ response.body

/-- Serves the lines of the input. -/
partial def serve (service : Service) (input output : IO.FS.Stream) : IO Unit := do
  let line ← input.getLine
  if line.isEmpty || service.serving.phase == .stopped then return
  match Http.Request.ofParts? "GET" (line.dropEndWhile Char.isWhitespace).toString [] "" with
  | none => serve service input output
  | some request =>
    let clock : Clock := { now := ← now, reported := ⟨0, 0⟩, elapsed := ⟨0, 0⟩ }
    let (service, served) := service.visit clock none request
    output.putStrLn (answer served.response)
    output.flush
    serve service input output

end AdminPort.Program

open AdminPort in
/-- Loads the configuration and serves. -/
def main : IO UInt32 := do
  let setting ← Program.setting Startup.settingName
  let view ← Program.look (Startup.source setting).path
  match Startup.start (fun _ => view) setting with
  | .fails problem =>
    (← IO.getStderr).putStr (Startup.failureText problem.fault)
    return .ofNat Startup.failureCode
  | .listens config _ =>
    let machine ← Program.setting Startup.machineSettingName
    let service := Startup.service (.ofSettings fun _ => none) config machine []
    Program.serve service.1 (← IO.getStdin) (← IO.getStdout)
    return 0
