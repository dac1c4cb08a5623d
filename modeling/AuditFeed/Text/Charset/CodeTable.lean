/-!
# Code tables

Encodings of several bytes for each character look their characters up by a position that they
compute from the bytes. A **code table** holds the characters in the order of their positions.

An encoding of this kind is given by what the bytes at hand start with; `readBytes` reads a whole
text with it.
-/

namespace AuditFeed.Text

/-- The replacement character. -/
def replacement : Char := '\uFFFD'

/-- Characters by their positions. -/
structure CodeTable where
  /-- The character at each position, with a full stop where there is none. -/
  cells : Array Char

namespace CodeTable

/-- The cells with empty ones behind them up to a position. -/
def padTo (start : Nat) (cells : Array Char) : Array Char :=
  cells ++ Array.replicate (start - cells.size) '.'

/-- The table of these runs. Each has the position that it starts at and its characters in rows. -/
def ofRuns (runs : List (Nat × List String)) : CodeTable :=
  ⟨runs.foldl (fun cells (start, rows) ↦
    rows.foldl (fun cells row ↦ cells ++ row.toList.toArray) (padTo start cells)) #[]⟩

/-- The character at a position. -/
def char? (t : CodeTable) (position : Nat) : Option Char :=
  match t.cells[position]? with
  | some c => if c = '.' then none else some c
  | none => none

end CodeTable

/-! ### Reading -/

/-- What bytes start with: its text, and how many bytes behind the first one belong to it. -/
abbrev ByteStep := UInt8 → List UInt8 → List Char × Nat

/-- The text of bytes, read step by step; `inside` of them belong to what was read before. -/
def readBytes (step : ByteStep) : Nat → List UInt8 → List Char
  | _, [] => []
  | inside + 1, _ :: rest => readBytes step inside rest
  | 0, b :: rest =>
    let (text, more) := step b rest
    text ++ readBytes step more rest

namespace ByteStep

/-- Is this a byte of ASCII? -/
def isAscii (b : UInt8) : Bool := b < 0x80

/-- Is this byte in a range, its ends included? -/
def within (least greatest b : UInt8) : Bool :=
  least ≤ b && b ≤ greatest

/-- One byte that is a character. -/
def single (c : Char) : List Char × Nat := ([c], 0)

/-- A byte of ASCII. -/
def ascii (b : UInt8) : List Char × Nat := single (Char.ofNat b.toNat)

/-- A byte that starts nothing. -/
def bad : List Char × Nat := single replacement

/-- Two bytes, by their text if they have one. A byte of ASCII that does not fit behind the first
one stands for itself. -/
def pair (text? : Nat → Nat → Option (List Char)) : ByteStep
  | _, [] => bad
  | b, c :: _ =>
    match text? b.toNat c.toNat with
    | some text => (text, 1)
    | none => ([replacement], if isAscii c then 0 else 1)

end ByteStep

end AuditFeed.Text
