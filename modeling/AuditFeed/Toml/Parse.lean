import AuditFeed.Toml.Document
import AuditFeed.Toml.Scan

/-!
# Reading TOML

A document is a list of lines, each empty, a header, or a key and a value. Arrays and long strings
may go over several of them.

How deep values and keys may go is limited, so that no document makes a reader of limited depth
fail.
-/

namespace AuditFeed.Toml

open Text

/-- How many names a key may have, and how many brackets and braces a value may stand in. -/
def maxDepth : Nat := 79

/-- Reads a word. -/
def word (w : String) (v : Value) : Scan Value := do
  w.toList.forM Scan.char
  return v

mutual

/-- Reads a value, with brackets and braces up to `room` deep. Each step inwards or onwards spends
one unit of `fuel`. -/
def value (fuel room : Nat) : Scan Value := do
  match fuel, ← get with
  | 0, _ | _, [] => failure
  | fuel + 1, c :: s =>
    if c = '"' ∨ c = '\'' then return .text (String.ofList (← string))
    else if c = 't' then word "true" (.boolean true)
    else if c = 'f' then word "false" (.boolean false)
    else if c = '[' ∨ c = '\x7b' then
      match room with
      | 0 => failure
      | room + 1 =>
        set s
        if c = '[' then return .array (← items fuel room)
        skipGap
        match ← get with
        | '\x7d' :: s =>
          set s
          return .table .braces []
        | _ => return .table .braces (← pairs fuel room [])
    else numeral

/-- Reads the items of an array up to its closing bracket. -/
def items (fuel room : Nat) : Scan (List Value) := do
  match fuel with
  | 0 => failure
  | fuel + 1 =>
    skipLines
    match ← get with
    | ']' :: s =>
      set s
      return []
    | _ =>
      let v ← value fuel room
      skipLines
      match ← get with
      | ']' :: s =>
        set s
        return [v]
      | ',' :: s =>
        set s
        return v :: (← items fuel room)
      | _ => failure

/-- Reads the pairs of a table in braces after those already read, up to its closing brace. -/
def pairs (fuel room : Nat) (entries : Entries) : Scan Entries := do
  match fuel with
  | 0 => failure
  | fuel + 1 =>
    let names ← key maxDepth
    Scan.char '='
    skipGap
    let v ← value fuel room
    skipGap
    let (path, last) ← StateT.lift (Document.splitLast names)
    let entries ← StateT.lift (entries.assign path last v)
    match ← get with
    | '\x7d' :: s =>
      set s
      return entries
    | ',' :: s =>
      set s
      pairs fuel room entries
    | _ => failure

end

/-- Reads a header after its first bracket. -/
def header (d : Document) : Scan Document := do
  let row := (← get).head? = some '['
  if row then Scan.char '['
  let names ← key maxDepth
  Scan.char ']'
  if row then Scan.char ']'
  endLine
  StateT.lift (d.header row names)

/-- Reads a key and its value; no value nests deeper than the document is long. -/
def assignment (d : Document) : Scan Document := do
  let names ← key maxDepth
  Scan.char '='
  skipGap
  let v ← value (2 * (← get).length + 2) maxDepth
  endLine
  StateT.lift (d.assign names v)

/-- Reads lines to the end, at most so many. -/
def lines : Nat → Document → Scan Document
  | 0, d => return d
  | most + 1, d => do
    skipLines
    match ← get with
    | [] => return d
    | '[' :: s =>
      set s
      lines most (← header d)
    | _ => lines most (← assignment d)

/-- The text with line ends of one kind. -/
def unifyLineEnds : List Char → List Char
  | [] => []
  | '\r' :: '\n' :: s => '\n' :: unifyLineEnds s
  | c :: s => c :: unifyLineEnds s

/-- The text without the mark that may stand in front of it. -/
def dropMark (s : List Char) : List Char :=
  if s.head? = some '\uFEFF' then s.tail else s

/-- The table that a document writes. -/
def parse (document : String) : Option Value := do
  let s := unifyLineEnds (dropMark document.toList)
  let d ← Scan.whole (lines (s.length + 1) .empty) s
  return .table .header d.entries

end AuditFeed.Toml
