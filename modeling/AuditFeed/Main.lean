import AuditFeed.Program
import Std.Time.DateTime.Timestamp

/-!
# The command line program

Supplies a run with what it needs from outside: the environment, the clock and the files that the
settings name.

There is no network layer. A request that is not refused before it is sent fails like one that
reaches nobody; so no signature is ever seen, and signatures are empty.
-/

namespace AuditFeed.Program

/-- The environment variables that a run looks at. -/
def variableNames : List String :=
  ["XDG_CONFIG_HOME", "HOME"] ++ CommandLine.globalOptions.filterMap (·.fallback)

/-- The codes by which the system says that a path leads to a directory. -/
def directoryCodes : List UInt32 := [21, 0 - 21]

/-- Why the system cannot read a file. -/
def fileError : IO.Error → FileError
  | .noFileOrDirectory .. => .notFound
  | .permissionDenied .. => .permissionDenied
  | .inappropriateType _ code _ =>
    if code ∈ directoryCodes then .isDirectory else .notDirectory
  | e => .other (toString e)

/-- The text of a file. -/
def readText (path : String) : IO (Except FileError String) := do
  match ← (IO.FS.readBinFile path).toBaseIO with
  | .error e => return .error (fileError e)
  | .ok bytes =>
    match String.fromUTF8? bytes with
    | some text => return .ok text
    | none => return .error .notText

/-- The files with these paths, and no others. -/
def readFiles (paths : List String) : IO Files := do
  let contents ← paths.mapM fun path ↦ return (path, ← readText path)
  return fun path ↦ (contents.lookup path).getD (.error .notFound)

/-- The environment variables that are set. -/
def readEnvironment : IO (String → Option String) := do
  let values ← variableNames.mapM fun name ↦ return (name, ← IO.getEnv name)
  return fun name ↦ (values.lookup name).join

/-- The files that an invocation needs: the settings, and the key that they name. -/
def neededFiles (environment : String → Option String) (i : CommandLine.Invocation) : IO Files := do
  let path := standardSettingsPath environment
  let settingsFile := i.options.settingsFile.getD path
  let files ← readFiles [settingsFile]
  match Settings.inEffect files path i.options with
  | .ok s => readFiles (settingsFile :: s.workspace.credentialsFile.toList)
  | .error _ => return files

/-- What the clock shows. -/
def readClock : IO Instant := do
  let now ← Std.Time.Timestamp.now
  return (Instant.ofSeconds? now.toSecondsSinceUnixEpoch.val).getD .epoch

/-- The most polls of one window. -/
def pollLimit : Nat := 1000000

/-- What arguments leave behind. -/
def start (args : List String) : IO Outcome := do
  let environment ← readEnvironment
  let files ← match CommandLine.parse environment args with
    | .ok i => neededFiles environment i
    | .error _ => readFiles []
  let w : Surroundings Unit :=
    { environment, files, sign := fun _ _ ↦ .ok [], network := .offline, pollLimit }
  return runIn w args (.start () (← readClock))

end AuditFeed.Program

/-- Runs the program and answers with its exit code. -/
def main (args : List String) : IO UInt32 := do
  let o ← AuditFeed.Program.start args
  IO.print o.output
  IO.eprint o.complaint
  return o.code.toUInt32
