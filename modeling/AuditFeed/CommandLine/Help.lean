import AuditFeed.CommandLine.Scan
import AuditFeed.Text.Wrap

/-!
# Help

What the program says about its commands. Options whose value the environment can supply show what
it supplies.
-/

namespace AuditFeed.CommandLine

/-- The program's name. -/
def programName : String := "wsconnect"

/-- The program's version. -/
def versionText : String := programName ++ " 0.1.0\n"

/-- The columns of a line. -/
def lineColumns : Nat := 100

/-- What an option is about, behind an indentation that each further line of it has as well. -/
def indentedAbout (about : String) : String :=
  let indent := String.ofList (List.replicate 10 ' ')
  let lines := String.ofList (Text.Wrap.wrap (lineColumns - indent.length) about.toList)
  indent ++ lines.replace "\n" ("\n" ++ indent)

/-- An option with an environment variable that can stand in for it, and the variable's value. -/
def suppliedOption (environment : String → Option String) (head about name : String) : String :=
  let value := (environment name).getD ""
  head ++ "\n" ++ indentedAbout s!"{about} [env: {name}={value}]" ++ "\n"

/-- The help about the program. What steers a terminal in the values that it shows is left out. -/
def programHelp (environment : String → Option String) : String :=
  let supplied := suppliedOption environment
  Text.Terminal.plain <|
    "Command-line driver for the Workspace activity feeds\n\n" ++
      "Usage: wsconnect [OPTIONS] <COMMAND>\n\n" ++
      "Commands:\n" ++
      "  poll    Poll an activity feed and print the events as JSON\n" ++
      "  config  Configuration commands\n" ++
      "  help    Print this message or the help of the given subcommand(s)\n\n" ++
      "Options:\n" ++
      supplied "  -c, --config <CONFIG>" "Path to configuration file" "WSCONNECT_CONFIG" ++
      "  -v, --debug\n          Enable debug output\n" ++
      supplied "      --log-format <LOG_FORMAT>" "Log format: pretty, compact or json"
        "WSCONNECT_LOG_FORMAT" ++
      supplied "      --customer-id <CUSTOMER_ID>" "Workspace customer id"
        "WSCONNECT_CUSTOMER_ID" ++
      supplied "      --domain <DOMAIN>" "Primary domain of the tenant" "WSCONNECT_DOMAIN" ++
      supplied "      --admin-email <ADMIN_EMAIL>" "Admin the service account impersonates"
        "WSCONNECT_ADMIN_EMAIL" ++
      supplied "      --credentials-file <CREDENTIALS_FILE>" "Path to the service account key file"
        "WSCONNECT_CREDENTIALS_FILE" ++
      "  -h, --help\n          Print help\n" ++
      "  -V, --version\n          Print version\n"

/-- The help about polls. -/
def pollHelp : String :=
  "Poll an activity feed and print the events as JSON\n\n" ++
    "Usage: wsconnect poll [OPTIONS]\n\n" ++
    "Options:\n" ++
    "      --feed <FEED>            Which activity log to read [default: admin] " ++
    "[possible values: admin,\n                               usage]\n" ++
    "      --cursor <CURSOR>        Cursor returned by the previous poll [default: ]\n" ++
    "      --page-size <PAGE_SIZE>  Activities per page (0 uses the configured default) " ++
    "[default: 0]\n" ++
    "      --start <START>          Start of the first window (RFC3339), " ++
    "when no cursor is given\n" ++
    "      --all                    Keep polling until the current window is exhausted\n" ++
    "  -h, --help                   Print help\n"

/-- The help about the configuration. -/
def configHelp : String :=
  "Configuration commands\n\n" ++
    "Usage: wsconnect config <COMMAND>\n\n" ++
    "Commands:\n" ++
    "  dump      Print the effective configuration\n" ++
    "  validate  Validate the configuration and the service account key\n" ++
    "  path      Show the configuration file path\n" ++
    "  help      Print this message or the help of the given subcommand(s)\n\n" ++
    "Options:\n" ++
    "  -h, --help  Print help\n"

/-- The help about a command without options. -/
def plainHelp (about usage : String) : String :=
  s!"{about}\n\nUsage: wsconnect {usage}\n\nOptions:\n  -h, --help  Print help\n"

/-- The help about asking for help. -/
def helpHelp (usage : String) : String :=
  "Print this message or the help of the given subcommand(s)\n\n" ++
    s!"Usage: wsconnect {usage} [COMMAND]...\n\n" ++
    "Arguments:\n  [COMMAND]...  Print help for the subcommand(s)\n"

/-- The help about the command that these names lead to. -/
def helpText (environment : String → Option String) : List String → String
  | ["poll"] => pollHelp
  | ["config"] => configHelp
  | ["config", "dump"] => plainHelp "Print the effective configuration" "config dump"
  | ["config", "validate"] =>
    plainHelp "Validate the configuration and the service account key" "config validate"
  | ["config", "path"] => plainHelp "Show the configuration file path" "config path"
  | ["help"] => helpHelp "help"
  | ["config", "help"] => helpHelp "config help"
  | _ => programHelp environment

end AuditFeed.CommandLine
