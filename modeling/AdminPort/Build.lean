import AdminPort.Text.Blank
import AdminPort.Text.Json
import AdminPort.Text.Numeral

/-!
# Build data

What the daemon tells about its own build: revision, time, state of the
repository and place. The packaging step leaves the values in named settings;
a setting that is missing reads as unknown, a time that is no numeral as 0.
-/

namespace AdminPort

/-- The state of the repository that was built. -/
inductive RepoStatus where
  | unknown
  | modified
  | minted
deriving DecidableEq, Repr

/-- The name under which a repository state is shown. -/
def RepoStatus.name : RepoStatus → String
  | .unknown => "UNKNOWN"
  | .modified => "MODIFIED"
  | .minted => "MINTED"

/-- The state that a setting names, in letters of either case. -/
def RepoStatus.ofSetting (s : String) : RepoStatus :=
  let lowered := String.ofList (s.toList.map Char.toLower)
  if lowered = "modified" ∨ lowered = "dirty" then .modified
  else if lowered = "minted" ∨ lowered = "clean" then .minted
  else .unknown

/-- Build data. -/
structure Build where
  version : String
  shortRevision : String
  fullRevision : String
  timestamp : UInt64
  status : RepoStatus
  user : String
  host : String
  repo : String
deriving DecidableEq, Repr

namespace Build

/-- The version of this release. -/
def release : String := "0.1.0"

/-- The time that a setting names: a numeral below 2^64 between blanks, else 0. -/
def timestampOfSetting (setting : Option String) : UInt64 :=
  match setting.bind fun s => Text.Numeral.readBelow UInt64.size (Text.trim s.toList) with
  | some n => UInt64.ofNat n
  | none => 0

/-- Build data from the settings of the packaging step. -/
def ofSettings (setting : String → Option String) : Build :=
  let named (name : String) := (setting name).getD "unknown"
  { version := release
    shortRevision := named "TSDADMIN_SHORT_REVISION"
    fullRevision := named "TSDADMIN_FULL_REVISION"
    timestamp := timestampOfSetting (setting "TSDADMIN_BUILD_TIMESTAMP")
    status := RepoStatus.ofSetting ((setting "TSDADMIN_REPO_STATUS").getD "")
    user := named "TSDADMIN_BUILD_USER"
    host := named "TSDADMIN_BUILD_HOST"
    repo := named "TSDADMIN_BUILD_REPO" }

/-- The line about the revision. -/
def revisionText (b : Build) : String :=
  "tsdadmin " ++ b.version ++ " built at revision " ++ b.shortRevision ++
    " (" ++ b.status.name ++ ")"

/-- The line about time and place. -/
def placeText (b : Build) : String :=
  "Built on " ++ Text.Numeral.decimal b.timestamp.toNat ++ " by " ++ b.user ++ "@" ++ b.host ++
    ":" ++ b.repo

/-- Both lines. -/
def text (b : Build) : String :=
  b.revisionText ++ "\n" ++ b.placeText ++ "\n"

/-- The members of the build data as an object, sorted by name. -/
def members (b : Build) : List (String × Text.Json.Value) :=
  [("full_revision", .text b.fullRevision),
   ("host", .text b.host),
   ("repo", .text b.repo),
   ("repo_status", .text b.status.name),
   ("short_revision", .text b.shortRevision),
   ("timestamp", .number b.timestamp.toNat),
   ("user", .text b.user)]

/-- The build data as one line of JSON. -/
def json (b : Build) : String :=
  Text.Json.object b.members

end Build

end AdminPort
