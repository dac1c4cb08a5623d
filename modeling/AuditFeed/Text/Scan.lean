import AuditFeed.Word

/-!
# Scanning

A scanner reads a part of a text and leaves the rest, or fails. The readers of dates, addresses and
headers are sequences of the few scanners below, each of which reads one thing and decides nothing
about what follows it.
-/

namespace AuditFeed.Text

/-- Reads a value off the front of a text, or fails. -/
abbrev Scan := StateT (List Char) Option

/-- Is this one of the ten ASCII digits? -/
def isDigit (c : Char) : Bool :=
  '0' ≤ c && c ≤ '9'

/-- The value of a digit. -/
def digitValue (c : Char) : Nat :=
  c.toNat - '0'.toNat

/-- The value of a hexadecimal digit in either case. -/
def hexValue? (c : Char) : Option Nat :=
  if '0' ≤ c ∧ c ≤ '9' then some (c.toNat - '0'.toNat)
  else if 'a' ≤ c ∧ c ≤ 'f' then some (c.toNat - 'a'.toNat + 10)
  else if 'A' ≤ c ∧ c ≤ 'F' then some (c.toNat - 'A'.toNat + 10)
  else none

/-- The number that a list of digits writes, after the number already read. -/
def digitsValue (acc : Nat) (ds : List Char) : Nat :=
  ds.foldl (fun n d ↦ n * 10 + digitValue d) acc

/-- The number that a non-empty list of digits writes. -/
def number? (s : List Char) : Option Nat :=
  if s ≠ [] ∧ s.all isDigit then some (digitsValue 0 s) else none

/-- The number that an optional sign and digits write. -/
def signedNumber? : List Char → Option Int
  | '-' :: s => (number? s).map fun n ↦ -(n : Int)
  | '+' :: s => (number? s).map fun n ↦ (n : Int)
  | s => (number? s).map fun n ↦ (n : Int)

/-- The number below `bound` that digits write, with an optional plus in front. -/
def numberBelow? (bound : Nat) (s : List Char) : Option Nat :=
  let ds := match s with
    | '+' :: ds => ds
    | ds => ds
  (number? ds).filter (· < bound)

/-- The 64-bit integer that an optional sign and digits write. -/
def int64? (s : List Char) : Option Int :=
  (signedNumber? s).filter fun n ↦ -(Word.limit63 : Int) ≤ n && n < Word.limit63

namespace Scan

/-- Reads exactly this character. -/
def char (c : Char) : Scan Unit
  | d :: rest => if c = d then some ((), rest) else none
  | [] => none

/-- Reads one of these characters. -/
def oneOf (cs : List Char) : Scan Unit
  | d :: rest => if d ∈ cs then some ((), rest) else none
  | [] => none

/-- Reads all leading blanks away; `blank` says which characters those are. -/
def skipWhile (blank : Char → Bool) : Scan Unit :=
  fun s ↦ some ((), s.dropWhile blank)

/-- Reads the leading digits, at least `least` and at most `most` of them; the rest may go on with
more. -/
def digits (least : Nat) (most : Option Nat) : Scan (List Char) := fun s ↦
  let run := (match most with | some m => s.take m | none => s).takeWhile isDigit
  if least ≤ run.length then some (run, s.drop run.length) else none

/-- Reads the number written by the leading digits. -/
def number (least : Nat) (most : Option Nat) : Scan Nat := do
  return digitsValue 0 (← digits least most)

/-- Succeeds where nothing is left. -/
def finish : Scan Unit
  | [] => some ((), [])
  | _ => none

/-- Runs a scanner over a whole text. -/
def whole (p : Scan α) (s : List Char) : Option α := do
  let (a, rest) ← p s
  if rest.isEmpty then some a else none

end Scan

end AuditFeed.Text
