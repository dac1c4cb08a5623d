import AuditFeed.Collect
import AuditFeed.CommandLine.Scan
import AuditFeed.Instant.Rfc3339
import AuditFeed.Text.Scan
import AuditFeed.Word

/-!
# Invocations

What the program can be asked to do: to poll a feed, or to say something about its configuration.
Options that hold for every command stand in front of it, and for most of them an environment
variable can stand in; options of a command stand behind it.
-/

namespace AuditFeed.CommandLine

/-- The options that hold for every command. -/
structure GlobalOptions where
  /-- The settings file. -/
  settingsFile : Option String
  /-- Should everything be logged that helps to see what goes wrong? -/
  debug : Bool
  /-- The name of a log format. -/
  logFormat : Option String
  /-- The customer. -/
  customerId : Option String
  /-- The customer's domain. -/
  domain : Option String
  /-- The admin on whose behalf the log is read. -/
  adminEmail : Option String
  /-- The file of the key. -/
  credentialsFile : Option String
deriving DecidableEq

/-- What to say about the configuration. -/
inductive ConfigAction where
  /-- The settings in effect. -/
  | dump
  /-- Whether it can be used. -/
  | validate
  /-- Where the settings file is. -/
  | path
deriving DecidableEq

/-- What to do. -/
inductive Command where
  /-- Poll a feed and print its events. -/
  | poll (feed : FeedKind) (request : PollRequest)
  /-- Say something about the configuration. -/
  | config (action : ConfigAction)
deriving DecidableEq

/-- What the program is asked to do. -/
structure Invocation where
  /-- The options that hold for every command. -/
  options : GlobalOptions
  /-- The command. -/
  command : Command
deriving DecidableEq

/-! ### Options -/

/-- The option that asks for help about a command. -/
def helpOption {ρ : Type} (path : List String) : Opt ρ :=
  ⟨"help", some 'h', none, false, fun _ _ ↦ .error (.help path)⟩

/-- An option whose value is any text. -/
def textOption {ρ : Type} (long : String) (fallback : Option String) (set : String → ρ → ρ) :
    Opt ρ :=
  ⟨long, none, fallback, true, fun value r ↦ .ok (set value r)⟩

/-- An option whose value is a path, which is not empty. -/
def pathOption {ρ : Type} (long : String) (short : Option Char) (fallback : Option String)
    (set : String → ρ → ρ) : Opt ρ :=
  ⟨long, short, fallback, true, fun value r ↦
    if value = "" then .error .badValue else .ok (set value r)⟩

/-- An option without a value. -/
def switchOption {ρ : Type} (long : String) (short : Option Char) (set : ρ → ρ) : Opt ρ :=
  ⟨long, short, none, false, fun _ r ↦ .ok (set r)⟩

/-- The options that hold for every command. -/
def globalOptions : List (Opt GlobalOptions) := [
  pathOption "config" (some 'c') (some "WSCONNECT_CONFIG")
    fun v o ↦ { o with settingsFile := some v },
  switchOption "debug" (some 'v') fun o ↦ { o with debug := true },
  textOption "log-format" (some "WSCONNECT_LOG_FORMAT")
    fun v o ↦ { o with logFormat := some v },
  textOption "customer-id" (some "WSCONNECT_CUSTOMER_ID")
    fun v o ↦ { o with customerId := some v },
  textOption "domain" (some "WSCONNECT_DOMAIN") fun v o ↦ { o with domain := some v },
  textOption "admin-email" (some "WSCONNECT_ADMIN_EMAIL")
    fun v o ↦ { o with adminEmail := some v },
  pathOption "credentials-file" none (some "WSCONNECT_CREDENTIALS_FILE")
    fun v o ↦ { o with credentialsFile := some v },
  helpOption [],
  ⟨"version", some 'V', none, false, fun _ _ ↦ .error .version⟩]

/-- No options. -/
def GlobalOptions.unset : GlobalOptions := ⟨.none, false, .none, .none, .none, .none, .none⟩

/-- What the options of a poll come to. -/
structure PollOptions where
  /-- The feed. -/
  feed : FeedKind
  /-- What to poll it for. -/
  request : PollRequest
deriving DecidableEq

/-- The feed of a name. -/
def feedNamed (name : String) : Except Refusal FeedKind :=
  if name = "admin" then .ok .admin
  else if name = "usage" then .ok .usage
  else .error .badValue

/-- The page size that a text writes. -/
def pageSizeOf (s : String) : Except Refusal UInt32 :=
  match Text.int64? s.toList with
  | some n => if 0 ≤ n ∧ n < Word.limit32 then .ok (.ofNat n.toNat) else .error .malformedValue
  | none => .error .malformedValue

/-- The start that a text writes. -/
def startOf (s : String) : Except Refusal Instant :=
  match Instant.parseRelaxed? s with
  | some t => .ok t
  | none => .error .malformedValue

/-- The options of a poll. -/
def pollOptions : List (Opt PollOptions) := [
  ⟨"feed", none, none, true, fun v o ↦ do return { o with feed := ← feedNamed v }⟩,
  textOption "cursor" none fun v o ↦ { o with request.cursor := v },
  ⟨"page-size", none, none, true, fun v o ↦ do
    return { o with request.pageSize := ← pageSizeOf v }⟩,
  ⟨"start", none, none, true, fun v o ↦ do
    return { o with request.start := some (← startOf v) }⟩,
  switchOption "all" none fun o ↦ { o with request.all := true },
  helpOption ["poll"]]

/-- A poll without options. -/
def PollOptions.standard : PollOptions := ⟨.admin, ⟨"", 0, none, false⟩⟩

/-! ### Commands -/

/-- The word that asks for help in the place of a command. -/
def helpCommand : String := "help"

/-- The commands that can follow the names of a command. -/
def commandsBelow : List String → List String
  | [] => ["poll", "config", helpCommand]
  | ["config"] => ["dump", "validate", "path", helpCommand]
  | _ => []

/-- The refusal by which help is given about the command that `topic` leads to from `path`. -/
def helpAbout (path : List String) : List String → Refusal
  | [] => .help path
  | name :: topic =>
    if name ∈ commandsBelow path then helpAbout (path ++ [name]) topic else .unknownCommand

/-- Reads the words behind a command that has no options but for help. -/
def parsePlain (path args : List String) : Except Refusal Unit := do
  let (p, _) ← scan [helpOption path] [] (.start ()) args
  discard p.settle

/-- Reads the words behind the command for polls. -/
def parsePoll (args : List String) : Except Refusal Command := do
  let (p, _) ← scan pollOptions [] (.start .standard) args
  let o := (← p.settle).result
  return .poll o.feed o.request

/-- The action of a name. -/
def actionNamed (name : String) : ConfigAction :=
  if name = "dump" then .dump else if name = "validate" then .validate else .path

/-- Reads the words behind the command for the configuration. -/
def parseConfig (args : List String) : Except Refusal Command := do
  let path := ["config"]
  match ← scan [helpOption path] (commandsBelow path) (.start ()) args with
  | (_, none) => throw .nothingGiven
  | (_, some (name, rest)) =>
    if name = helpCommand then throw (helpAbout path rest)
    parsePlain (path ++ [name]) rest
    return .config (actionNamed name)

/-- Reads a command and the words behind it. -/
def parseCommand (name : String) (args : List String) : Except Refusal Command :=
  if name = helpCommand then .error (helpAbout [] args)
  else if name = "poll" then parsePoll args
  else parseConfig args

/-- Reads the arguments of the program. -/
def parse (environment : String → Option String) (args : List String) :
    Except Refusal Invocation := do
  let (p, command) ← scan globalOptions (commandsBelow []) (.start .unset) args
  let command ← command.mapM fun (name, rest) ↦ parseCommand name rest
  let p ← (← p.settle).fill environment globalOptions
  match command with
  | some command => return ⟨p.result, command⟩
  | none => throw (if p.seen = [] then .nothingGiven else .missingCommand)

end AuditFeed.CommandLine
