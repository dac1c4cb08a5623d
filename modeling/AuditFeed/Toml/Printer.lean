import AuditFeed.Decimal.Digits
import AuditFeed.Text.Percent

/-!
# Writing TOML

A string is written in the plainest style that can hold it: in double quotes where nothing has to be
escaped, else in single quotes, else as a long string of either kind, and with escapes only where no
style does without.
-/

namespace AuditFeed.Toml

/-- The styles of strings. -/
inductive Style where
  /-- In double quotes, with escapes. -/
  | basic
  /-- In single quotes. -/
  | literal
  /-- In three double quotes, with escapes. -/
  | longBasic
  /-- In three single quotes. -/
  | longLiteral
deriving DecidableEq

/-- Is this a control character that no style holds as it is? A tab and a line end are not. -/
def needsCode (c : Char) : Bool :=
  (c.toNat < 0x20 && c != '\t' && c != '\n') || c.toNat == 0x7F

/-- The length of the longest run of a character. -/
def longestRun (c : Char) (s : List Char) : Nat :=
  (s.foldl (fun (run, most) d ↦
    let run := if d = c then run + 1 else 0
    (run, max most run)) (0, 0)).2

/-- The style of a string. -/
def style (s : List Char) : Style :=
  let codes := s.any needsCode
  let lineEnd := s.contains '\n'
  let escapes := codes || s.contains '\\'
  let doubles := longestRun '"' s
  let singles := longestRun '\'' s
  if !escapes && !lineEnd && doubles = 0 then .basic
  else if !codes && !lineEnd && singles = 0 then .literal
  else if !escapes && doubles ≤ 2 then .longBasic
  else if !codes && singles ≤ 2 then .longLiteral
  else if lineEnd then .longBasic
  else .basic

/-- A character other than a quote in a string with escapes. -/
def escapeChar (long : Bool) (c : Char) : List Char :=
  if c = '\x08' then ['\\', 'b']
  else if c = '\t' then ['\\', 't']
  else if c = '\n' then if long then ['\n'] else ['\\', 'n']
  else if c = '\x0c' then ['\\', 'f']
  else if c = '\r' then ['\\', 'r']
  else if c = '\\' then ['\\', '\\']
  else if needsCode c then
    ['\\', 'u', '0', '0', Text.upperHexDigit (c.toNat / 16), Text.upperHexDigit (c.toNat % 16)]
  else [c]

/-- The inside of a string with escapes, after a run of so many quotes. A long string holds two
quotes in a row, a short one none. -/
def escapedChars (long : Bool) : Nat → List Char → List Char
  | _, [] => []
  | run, c :: s =>
    if c = '"' then
      if run < (if long then 2 else 0) then '"' :: escapedChars long (run + 1) s
      else '\\' :: '"' :: escapedChars long 0 s
    else escapeChar long c ++ escapedChars long 0 s

/-- The line end that opens a long string which has one itself. -/
def opening (s : List Char) : List Char :=
  if s.contains '\n' then ['\n'] else []

/-- A string. -/
def quote (s : List Char) : List Char :=
  let double := List.replicate 3 '"'
  let single := List.replicate 3 '\''
  match style s with
  | .basic => '"' :: escapedChars false 0 s ++ ['"']
  | .literal => '\'' :: s ++ ['\'']
  | .longBasic => double ++ opening s ++ escapedChars true 0 s ++ double
  | .longLiteral => single ++ opening s ++ s ++ single

/-- The line of a text, if there is one. -/
def textLine (key : String) (v : Option String) : String :=
  match v with
  | some s => key ++ " = " ++ String.ofList (quote s.toList) ++ "\n"
  | none => ""

/-- The line of a number, if there is one. -/
def natLine (key : String) (v : Option Nat) : String :=
  match v with
  | some n => key ++ " = " ++ Decimal.text n ++ "\n"
  | none => ""

/-- A table with its header. -/
def tableText (name : String) (lines : List String) : String :=
  "[" ++ name ++ "]\n" ++ String.join lines

end AuditFeed.Toml
