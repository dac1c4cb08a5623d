import AuditFeed.Config
import AuditFeed.Toml.Parse
import AuditFeed.Toml.Printer
import AuditFeed.Word

/-!
# Settings

What the command line program is told in its settings file: three tables of which every entry may be
left out. What is left out is what a connector does by itself; only the admin and the key have to
come from somewhere.

The file is TOML. The same record can be read from JSON, where an entry may also be null.

A key that stands in the settings itself is read but never written.
-/

namespace AuditFeed

/-- Whose log is read, and how. -/
structure WorkspaceSettings where
  /-- The customer. -/
  customerId : Option String
  /-- The customer's domain. -/
  domain : Option String
  /-- The admin on whose behalf the log is read. -/
  adminEmail : Option String
  /-- The file of the key. -/
  credentialsFile : Option String
  /-- The key itself, for where there is no file. -/
  credentialsJson : Option String
  /-- How many seconds a request may take. -/
  timeoutSeconds : Option Nat
  /-- How the connector introduces itself. -/
  userAgent : Option String
deriving DecidableEq

/-- How feeds are read. -/
structure FeedSettings where
  /-- How many seconds ago a feed starts that has not been read. -/
  lagSeconds : Option Nat
  /-- The page size for callers who ask for none. -/
  pageSize : Option Nat
deriving DecidableEq

/-- What is logged, and how. -/
structure LoggingSettings where
  /-- The name of a format. -/
  format : Option String
  /-- A filter. -/
  filter : Option String
deriving DecidableEq

/-- What the program is told. -/
structure Settings where
  /-- Whose log is read. -/
  workspace : WorkspaceSettings
  /-- How feeds are read. -/
  feed : FeedSettings
  /-- What is logged. -/
  logging : LoggingSettings
deriving DecidableEq

/-- Nothing about the customer. -/
def WorkspaceSettings.empty : WorkspaceSettings := ⟨none, none, none, none, none, none, none⟩

/-- Nothing about feeds. -/
def FeedSettings.empty : FeedSettings := ⟨none, none⟩

/-- Nothing about logging. -/
def LoggingSettings.empty : LoggingSettings := ⟨none, none⟩

namespace Settings

/-- No settings. -/
def empty : Settings := ⟨.empty, .empty, .empty⟩

/-- The names of the tables. -/
def tableNames : List String := ["workspace", "feed", "logging"]

/-- The names of the entries about the customer. -/
def workspaceNames : List String :=
  ["customer_id", "domain", "admin_email", "credentials_file", "credentials_json", "timeout_secs",
    "user_agent"]

/-- The names of the entries about feeds. -/
def feedNames : List String := ["lag_window_secs", "page_size"]

/-- The names of the entries about logging. -/
def loggingNames : List String := ["format", "filter"]

end Settings

/-! ### From JSON -/

namespace Json

/-- The settings about the customer. -/
def workspaceSettings : Decoder WorkspaceSettings :=
  ofRecord Settings.workspaceNames fun room r ↦ do
    return {
      customerId := ← r.defaulted room 0 (option string) none
      domain := ← r.defaulted room 1 (option string) none
      adminEmail := ← r.defaulted room 2 (option string) none
      credentialsFile := ← r.defaulted room 3 (option string) none
      credentialsJson := ← r.defaulted room 4 (option string) none
      timeoutSeconds := ← r.defaulted room 5 (option (natBelow Word.limit64)) none
      userAgent := ← r.defaulted room 6 (option string) none }

/-- The settings about feeds. -/
def feedSettings : Decoder FeedSettings :=
  ofRecord Settings.feedNames fun room r ↦ do
    return {
      lagSeconds := ← r.defaulted room 0 (option (natBelow Word.limit64)) none
      pageSize := ← r.defaulted room 1 (option (natBelow Word.limit32)) none }

/-- The settings about logging. -/
def loggingSettings : Decoder LoggingSettings :=
  ofRecord Settings.loggingNames fun room r ↦ do
    return {
      format := ← r.defaulted room 0 (option string) none
      filter := ← r.defaulted room 1 (option string) none }

/-- The settings. -/
def settings : Decoder Settings :=
  ofRecord Settings.tableNames fun room r ↦ do
    return {
      workspace := ← r.defaulted room 0 workspaceSettings .empty
      feed := ← r.defaulted room 1 feedSettings .empty
      logging := ← r.defaulted room 2 loggingSettings .empty }

end Json

/-! ### From TOML -/

namespace Toml

/-- The field at a position, if it is there. -/
def optional (fields : List (Option Value)) (i : Nat) (d : Value → Option α) : Option (Option α) :=
  match (fields[i]?).join with
  | some v => (d v).map some
  | none => some none

/-- The settings about the customer. -/
def workspaceSettings (v : Value) : Option WorkspaceSettings := do
  let fields ← v.fields? Settings.workspaceNames
  return {
    customerId := ← optional fields 0 Value.text?
    domain := ← optional fields 1 Value.text?
    adminEmail := ← optional fields 2 Value.text?
    credentialsFile := ← optional fields 3 Value.text?
    credentialsJson := ← optional fields 4 Value.text?
    timeoutSeconds := ← optional fields 5 (Value.natBelow? Word.limit64)
    userAgent := ← optional fields 6 Value.text? }

/-- The settings about feeds. -/
def feedSettings (v : Value) : Option FeedSettings := do
  let fields ← v.fields? Settings.feedNames
  return {
    lagSeconds := ← optional fields 0 (Value.natBelow? Word.limit64)
    pageSize := ← optional fields 1 (Value.natBelow? Word.limit32) }

/-- The settings about logging. -/
def loggingSettings (v : Value) : Option LoggingSettings := do
  let fields ← v.fields? Settings.loggingNames
  return {
    format := ← optional fields 0 Value.text?
    filter := ← optional fields 1 Value.text? }

/-- The settings. -/
def settings (v : Value) : Option Settings := do
  let fields ← v.fields? Settings.tableNames
  return {
    workspace := (← optional fields 0 workspaceSettings).getD .empty
    feed := (← optional fields 1 feedSettings).getD .empty
    logging := (← optional fields 2 loggingSettings).getD .empty }

end Toml

namespace Settings

/-! ### Loading -/

/-- What is said of a document that holds no settings. -/
def unreadable : String := "the document holds no settings"

/-- The settings of a file, or why there are none. -/
def loadFrom (files : Files) (path : String) : Except String Settings :=
  match files path with
  | .error e => .error s!"failed to read {path}: {e.message}"
  | .ok document =>
    match (Toml.parse document).bind Toml.settings with
    | some s => .ok s
    | none => .error s!"failed to parse {path}: {unreadable}"

/-- The settings of a file, and none where there is no file. -/
def loadIfPresent (files : Files) (path : String) : Except String Settings :=
  if files.contains path then loadFrom files path else .ok empty

/-! ### Writing -/

/-- The settings as JSON, without the key. -/
def toJson (s : Settings) : Json.Value :=
  let text := Json.Value.ofOption Json.Value.text
  let nat := Json.Value.ofOption Json.Value.nat
  .object [
    ("workspace", .object [
      ("customer_id", text s.workspace.customerId), ("domain", text s.workspace.domain),
      ("admin_email", text s.workspace.adminEmail),
      ("credentials_file", text s.workspace.credentialsFile),
      ("timeout_secs", nat s.workspace.timeoutSeconds),
      ("user_agent", text s.workspace.userAgent)]),
    ("feed", .object [
      ("lag_window_secs", nat s.feed.lagSeconds), ("page_size", nat s.feed.pageSize)]),
    ("logging", .object [
      ("format", text s.logging.format), ("filter", text s.logging.filter)])]

/-- Can TOML write all numbers of the settings? -/
def isWritable (s : Settings) : Bool :=
  let fits := fun (n : Option Nat) ↦ n.all (· < Word.limit63)
  fits s.workspace.timeoutSeconds && fits s.feed.lagSeconds && fits s.feed.pageSize

/-- The settings as a TOML document, without the key. -/
def document (s : Settings) : String :=
  "\n".intercalate [
    Toml.tableText "workspace" [
      Toml.textLine "customer_id" s.workspace.customerId,
      Toml.textLine "domain" s.workspace.domain,
      Toml.textLine "admin_email" s.workspace.adminEmail,
      Toml.textLine "credentials_file" s.workspace.credentialsFile,
      Toml.natLine "timeout_secs" s.workspace.timeoutSeconds,
      Toml.textLine "user_agent" s.workspace.userAgent],
    Toml.tableText "feed" [
      Toml.natLine "lag_window_secs" s.feed.lagSeconds,
      Toml.natLine "page_size" s.feed.pageSize],
    Toml.tableText "logging" [
      Toml.textLine "format" s.logging.format,
      Toml.textLine "filter" s.logging.filter]]

/-! ### The connector -/

/-- Where the key comes from: the file if there is one, and else the settings themselves. -/
def credentials? (s : WorkspaceSettings) : Option CredentialSource :=
  s.credentialsFile.map .file <|> s.credentialsJson.map .inline

/-- The request to name an admin in a settings file. -/
def missingAdmin (path : String) : String :=
  s!"admin_email is missing. Add to {path}:\n  [workspace]\n  " ++
    "admin_email = \"admin@example.com\""

/-- What a connector has to be told, if it is all there and fits; `path` is the settings file to
name. -/
def connectorConfig (s : Settings) (path : String) : Except String ConnectorConfig := do
  let some adminEmail := s.workspace.adminEmail | throw (missingAdmin path)
  let some credentials := credentials? s.workspace
    | throw "credentials_file or credentials_json is required in [workspace]"
  let basic := ConnectorConfig.basic adminEmail credentials
  let c := { basic with
    customerId := s.workspace.customerId
    domain := s.workspace.domain
    timeout := (s.workspace.timeoutSeconds.map .ofSeconds).getD basic.timeout
    userAgent := s.workspace.userAgent.getD basic.userAgent
    lag := (s.feed.lagSeconds.map .ofSeconds).getD basic.lag
    pageSize := (s.feed.pageSize.map .ofNat).getD basic.pageSize }
  c.validate
  return c

end Settings

end AuditFeed
