import AuditFeed.CommandLine.Help
import AuditFeed.CommandLine.Invocation
import AuditFeed.Connector
import AuditFeed.Json.Pretty
import AuditFeed.Logging
import AuditFeed.Settings

/-!
# The program

What the program does from its arguments to its exit code. Files, the environment and the network
are supplied, so a run is a value like any other.

A run reads its settings, lets the options change them, sets up logging and only then looks at the
command. So settings that cannot be read, or a log format that there is not, fail every command.
-/

namespace AuditFeed

/-- Why the program fails. -/
inductive ProgramError where
  /-- The configuration does not fit. -/
  | config (message : String)
  /-- A poll failed. -/
  | sync (e : SyncError)
  /-- Logging cannot be set up. -/
  | logging (e : LogFilter.Error)
  /-- The caller cancelled. -/
  | interrupted
  /-- The polls that were allowed did not exhaust the window. -/
  | unfinished

namespace ProgramError

/-- What a failure says. -/
def text : ProgramError → String
  | config message => s!"configuration error: {message}"
  | sync e => e.text
  | logging e => s!"failed to initialize logging: failed to parse env filter: {e.message}"
  | interrupted => "interrupted"
  | unfinished => "the window has too many pages"

/-- The failure of a collection. -/
def ofCollect : CollectError → ProgramError
  | .interrupted => interrupted
  | .failed e => sync e
  | .unfinished => unfinished

end ProgramError

/-- What a program leaves behind. -/
structure Outcome where
  /-- The exit code. -/
  code : Nat
  /-- What it prints. -/
  output : String
  /-- What it complains of. -/
  complaint : String
deriving DecidableEq

/-! ### Paths -/

/-- A name inside a directory. -/
def joinPath (directory name : String) : String :=
  if directory.endsWith "/" then directory ++ name else directory ++ "/" ++ name

/-- The directory of the user's configuration files. -/
def configDirectory (environment : String → Option String) : String :=
  match (environment "XDG_CONFIG_HOME").filter (·.startsWith "/") with
  | some directory => directory
  | none =>
    match (environment "HOME").filter (· ≠ "") with
    | some home => joinPath home ".config"
    | none => "."

/-- The settings file for which no option is needed. -/
def standardSettingsPath (environment : String → Option String) : String :=
  joinPath (joinPath (configDirectory environment) "wsconnect") "config.toml"

/-! ### Settings -/

/-- The settings with the options in their place. -/
def Settings.override (s : Settings) (o : CommandLine.GlobalOptions) : Settings where
  workspace := { s.workspace with
    customerId := o.customerId <|> s.workspace.customerId
    domain := o.domain <|> s.workspace.domain
    adminEmail := o.adminEmail <|> s.workspace.adminEmail
    credentialsFile := o.credentialsFile <|> s.workspace.credentialsFile }
  feed := s.feed
  logging := { s.logging with format := o.logFormat <|> s.logging.format }

/-- The settings in effect. -/
def Settings.inEffect (files : Files) (path : String) (o : CommandLine.GlobalOptions) :
    Except ProgramError Settings := do
  let s ← (match o.settingsFile with
    | some file => loadFrom files file
    | none => loadIfPresent files path).mapError .config
  return s.override o

/-- What is logged, if there is such a format. -/
def Settings.logConfig (s : Settings) (debug : Bool) : Except ProgramError LogConfig := do
  let preset := if debug then LogConfig.verbose else .standard
  let format ← match s.logging.format with
    | none => pure preset.format
    | some name =>
      match LogFormat.ofName? name with
      | some format => pure format
      | none => throw (.config s!"unknown log format {Text.quoted name}")
  return { preset with format, filter := s.logging.filter <|> preset.filter }

/-! ### Commands -/

/-- A result as JSON. -/
def PollResult.toJson (r : PollResult) : Json.Value :=
  .object [("events", .arr (r.events.map Event.toJson)), ("cursor", .text r.cursor),
    ("has_more", .bool r.hasMore)]

namespace Program

variable {ω : Type}

/-- All that a run is supplied with but for its arguments and its session. -/
structure Surroundings (ω : Type) where
  /-- The environment variables. -/
  environment : String → Option String
  /-- The files. -/
  files : Files
  /-- Signs with a key. -/
  sign : ServiceAccountKey → Signer
  /-- The network. -/
  network : Network ω
  /-- The most polls of one window. -/
  pollLimit : Nat

/-- The settings file that is named to the user. -/
def Surroundings.settingsPath (w : Surroundings ω) : String :=
  standardSettingsPath w.environment

/-- The text of the settings. -/
def dump (s : Settings) (path : String) : Except ProgramError String :=
  if s.isWritable then .ok s!"# config.toml ({path})\n{s.document}\n"
  else .error (.config "failed to serialize config: out-of-range value for u64 type")

/-- Says that the configuration and the key can be used. -/
def validate (s : Settings) (files : Files) (path : String) : Except ProgramError String := do
  let c ← (s.connectorConfig path).mapError .config
  let key ← (c.credentials.load files).mapError fun e ↦ .config e.text
  return s!"Service account {key.clientEmail} is usable.\nConfiguration is valid.\n"

/-- Says something about the configuration. -/
def configure (s : Settings) (files : Files) (path : String) :
    CommandLine.ConfigAction → Except ProgramError String
  | .dump => dump s path
  | .validate => validate s files path
  | .path => .ok s!"config: {path}\n"

/-- Polls a feed. -/
def poll (w : Surroundings ω) (s : Settings) (feed : FeedKind) (r : PollRequest) :
    Call ω ProgramError String := do
  let c ← Call.ofExcept ((s.connectorConfig w.settingsPath).mapError .config)
  let connector ← Call.ofExcept <|
    (Connector.ofConfig c w.files w.sign w.network .standard).mapError .sync
  let result ← ((connector.feed feed).collect r w.pollLimit).mapError .ofCollect
  return result.toJson.pretty ++ "\n"

/-- Does what is asked for, and answers what to print. -/
def perform (w : Surroundings ω) (i : CommandLine.Invocation) : Call ω ProgramError String := do
  let s ← Call.ofExcept (Settings.inEffect w.files w.settingsPath i.options)
  let logging ← Call.ofExcept (s.logConfig i.options.debug)
  Call.ofExcept ((← Call.checked logging.check.run).mapError .logging)
  match i.command with
  | .poll feed request => poll w s feed request
  | .config action => Call.ofExcept (configure s w.files w.settingsPath action)

/-! ### Runs -/

/-- What an invocation leaves behind. -/
def outcome : Except ProgramError String → Outcome
  | .ok output => ⟨0, output, ""⟩
  | .error e => ⟨1, "", s!"error: {e.text}\n"⟩

/-- The outcome of arguments that are no invocation. Help that is asked for is no complaint. -/
def refusal (environment : String → Option String) : CommandLine.Refusal → Outcome
  | .help path => ⟨0, CommandLine.helpText environment path, ""⟩
  | .version => ⟨0, CommandLine.versionText, ""⟩
  | .nothingGiven => ⟨2, "", CommandLine.helpText environment []⟩
  | _ => ⟨2, "", "error: invalid arguments\n\nFor more information, try '--help'.\n"⟩

/-- Runs the program. -/
def run (w : Surroundings ω) (args : List String) : Run ω Outcome :=
  match CommandLine.parse w.environment args with
  | .ok invocation => do return outcome (← (perform w invocation).run)
  | .error r => pure (refusal w.environment r)

/-- The outcome of a run that stops without an answer. -/
def stopped : Outcome := ⟨101, "", "out of range\n"⟩

/-- What a run in some session leaves behind. -/
def runIn (w : Surroundings ω) (args : List String) (s : Session ω) : Outcome :=
  match (run w args).run s with
  | .ok (o, _) => o
  | .error _ => stopped

end Program

end AuditFeed
