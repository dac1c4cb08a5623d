/-!
# Reading arguments

The words behind a program's name, read from the left: options with one or two dashes, until a word
names a command. What follows a command is for that command to read.

## Rules

* The value of an option is attached to it or is the next word. The next word is no value where it
  starts with a dash, unless it is a dash alone.
* A letter is followed by further letters, or by its value if it takes one.
* An option may be given once.
* A value is looked at as late as possible: when the next option is, or at the end. So a word that
  no option is for is refused before the value in front of it, and a command is read before the
  values in front of it.
* Behind two dashes nothing is an option or a command.
-/

namespace AuditFeed.CommandLine

/-- Why arguments are no invocation of the program. -/
inductive Refusal where
  /-- There is no such option, or no room for a word. -/
  | unknownArgument
  /-- There is no such command. -/
  | unknownCommand
  /-- An option is without its value, or has none of those that it can have. -/
  | badValue
  /-- A value does not have the form of one. -/
  | malformedValue
  /-- An option that takes no value has one. -/
  | unexpectedValue
  /-- An option is given twice. -/
  | repeated
  /-- There is no command. -/
  | missingCommand
  /-- There are no arguments. -/
  | nothingGiven
  /-- Help is asked for, about the command that these names lead to. -/
  | help (path : List String)
  /-- The version is asked for. -/
  | version
deriving DecidableEq

/-- The name of a refusal. -/
def Refusal.name : Refusal → String
  | unknownArgument => "UnknownArgument"
  | unknownCommand => "InvalidSubcommand"
  | badValue => "InvalidValue"
  | malformedValue => "ValueValidation"
  | unexpectedValue => "TooManyValues"
  | repeated => "ArgumentConflict"
  | missingCommand => "MissingSubcommand"
  | nothingGiven => "DisplayHelpOnMissingArgumentOrSubcommand"
  | help _ => "DisplayHelp"
  | version => "DisplayVersion"

/-- An option of a command whose options come to a `ρ`. -/
structure Opt (ρ : Type) where
  /-- The name behind two dashes. -/
  long : String
  /-- The letter behind one dash. -/
  short : Option Char
  /-- The environment variable that stands in for the option. -/
  fallback : Option String
  /-- Does it take a value? -/
  takesValue : Bool
  /-- Notes the option with its value, if it takes one. -/
  note : String → ρ → Except Refusal ρ

/-- How far the options of a command are read. -/
structure Progress (ρ : Type) where
  /-- What they come to. -/
  result : ρ
  /-- The names of those that are noted. -/
  seen : List String
  /-- An option that is not noted yet, and its value if that is there. -/
  pending : Option (Opt ρ × Option String)

namespace Progress

variable {ρ : Type}

/-- Before the first option. -/
def start (result : ρ) : Progress ρ := ⟨result, [], none⟩

/-- Is the next word a value? -/
def isWaiting (p : Progress ρ) : Bool :=
  match p.pending with
  | some (_, none) => true
  | _ => false

/-- Notes an option. -/
def note (p : Progress ρ) (o : Opt ρ) (value : String) : Except Refusal (Progress ρ) :=
  if o.long ∈ p.seen then .error .repeated
  else do return { p with result := ← o.note value p.result, seen := o.long :: p.seen }

/-- Notes the option that is not noted yet. -/
def settle (p : Progress ρ) : Except Refusal (Progress ρ) :=
  match p.pending with
  | none => .ok p
  | some (_, none) => .error .badValue
  | some (o, some value) => { p with pending := none }.note o value

/-- Reads an option, with the value that is attached to it. -/
def read (p : Progress ρ) (o : Opt ρ) (attached : Option String) :
    Except Refusal (Progress ρ) :=
  match o.takesValue, attached with
  | true, some value => do (← p.settle).note o value
  | true, none => do return { ← p.settle with pending := some (o, none) }
  | false, none => do (← p.settle).note o ""
  | false, some _ => .error .unexpectedValue

/-- Reads what follows two dashes. -/
def readLong (options : List (Opt ρ)) (p : Progress ρ) (s : List Char) :
    Except Refusal (Progress ρ) :=
  let name := s.takeWhile (· != '=')
  let attached := match s.drop name.length with
    | _ :: value => some (String.ofList value)
    | [] => none
  match options.find? (·.long.toList = name) with
  | some o => p.read o attached
  | none => .error .unknownArgument

/-- Reads what follows one dash. -/
def readShort (options : List (Opt ρ)) (p : Progress ρ) : List Char → Except Refusal (Progress ρ)
  | [] => .ok p
  | c :: s =>
    match options.find? (·.short = some c) with
    | none => .error .unknownArgument
    | some o =>
      if o.takesValue then
        let value := if s.head? = some '=' then s.tail else s
        p.read o (if s = [] then none else some (String.ofList value))
      else do readShort options (← p.read o none) s

/-- Takes from the environment what is not given. -/
def fill (environment : String → Option String) : List (Opt ρ) → Progress ρ →
    Except Refusal (Progress ρ)
  | [], p => .ok p
  | o :: os, p =>
    match o.fallback.bind environment with
    | some value =>
      if o.long ∈ p.seen then fill environment os p
      else do fill environment os (← p.note o value)
    | none => fill environment os p

end Progress

/-- The refusal of a word for which there is no room; `commands` are the names that could have stood
there. -/
def refuse (commands : List String) (separated : Bool) (word : String) : Refusal :=
  if commands = [] ∨ (separated ∧ word ∈ commands) then .unknownArgument else .unknownCommand

/-- Reads options until a command: what they come to, and the command with the words behind it. -/
def scan {ρ : Type} (options : List (Opt ρ)) (commands : List String) (p : Progress ρ) :
    List String → Except Refusal (Progress ρ × Option (String × List String))
  | [] => .ok (p, none)
  | word :: rest =>
    if !p.isWaiting && commands.contains word then .ok (p, some (word, rest))
    else
      match word.toList with
      | ['-', '-'] =>
        match rest with
        | [] => .ok (p, none)
        | next :: _ => .error (refuse commands true next)
      | '-' :: '-' :: s => do scan options commands (← p.readLong options s) rest
      | '-' :: c :: s => do scan options commands (← p.readShort options (c :: s)) rest
      | _ =>
        match p.pending with
        | some (o, none) => scan options commands { p with pending := some (o, some word) } rest
        | _ => .error (refuse commands false word)

end AuditFeed.CommandLine
