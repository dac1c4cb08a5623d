import AuditFeed.Logging.Filter

/-!
# Logging

What is logged and in which form: three presets, which a format and a filter can change.
-/

namespace AuditFeed

/-- The form of log lines. -/
inductive LogFormat where
  /-- Several lines for each record, for people. -/
  | pretty
  /-- One line for each record. -/
  | compact
  /-- One JSON object for each record. -/
  | json
deriving DecidableEq

/-- The format of a name, in either case. -/
def LogFormat.ofName? (name : String) : Option LogFormat :=
  match String.ofList (name.toList.map Char.toLower) with
  | "pretty" => some .pretty
  | "compact" => some .compact
  | "json" => some .json
  | _ => none

/-- How much a record matters. -/
inductive LogLevel where
  | error
  | warn
  | info
  | debug
  | trace
deriving DecidableEq

namespace LogLevel

/-- The levels by name. -/
def names : List (String × LogLevel) :=
  [("ERROR", error), ("WARN", warn), ("INFO", info), ("DEBUG", debug), ("TRACE", trace)]

/-- The level of a name. -/
def ofName? (name : String) : Option LogLevel := names.lookup name

/-- The name of a level. -/
def name : LogLevel → String
  | error => "ERROR"
  | warn => "WARN"
  | info => "INFO"
  | debug => "DEBUG"
  | trace => "TRACE"

end LogLevel

/-- What is logged and in which form. -/
structure LogConfig where
  /-- The least level that is logged where no filter says otherwise. -/
  level : LogLevel
  /-- The form. -/
  format : LogFormat
  /-- Do lines tell where in the program they come from? -/
  location : Bool
  /-- Do lines tell which part of the program they come from? -/
  target : Bool
  /-- Do lines tell the time? -/
  timestamp : Bool
  /-- Are there lines for the start and the end of a piece of work? -/
  spanEvents : Bool
  /-- What is logged, if that is not for the level to say. -/
  filter : Option String
deriving DecidableEq

namespace LogConfig

/-- Warnings, a line each. -/
def standard : LogConfig := ⟨.warn, .compact, false, false, true, false, none⟩

/-- All that helps at the command line to see what goes wrong. -/
def verbose : LogConfig := ⟨.debug, .compact, true, true, false, false, none⟩

/-- Records for a log that is kept. -/
def connector : LogConfig := ⟨.info, .json, false, true, true, true, none⟩

end LogConfig

/-- Succeeds where logging can be set up. -/
def LogConfig.check (c : LogConfig) : LogFilter.Check Unit :=
  c.filter.forM LogFilter.check

end AuditFeed
