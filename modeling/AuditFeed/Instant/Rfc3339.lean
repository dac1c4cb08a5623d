import AuditFeed.Decimal.Digits
import AuditFeed.Instant.Calendar
import AuditFeed.Text.Blank
import AuditFeed.Text.Scan

/-!
# RFC 3339

Instants as text. Writing is in UTC with a `Z`; reading takes any offset.

## Two readers

* `parse?` is strict: fields of fixed width, one separator, nothing around.
* `parseRelaxed?` reads what people type and what `text` writes for years of more than four digits:
  signed years, short fields, blanks between the parts, and `UTC` for the offset.

The strict reader does not read years outside 0 to 9999, so it does not read every text that the
writer produces.
-/

namespace AuditFeed.Instant

open Calendar Text

/-! ### Writing -/

/-- How many digits of the second's fraction are written. -/
inductive Precision where
  /-- The fewest of 0, 3, 6 and 9 digits that lose nothing. -/
  | fewest
  /-- Three digits, the rest cut off. -/
  | millis
deriving DecidableEq

/-- The fraction of a second, with its point. -/
def fraction (p : Precision) (nanos : Nat) : List Char :=
  match p with
  | .millis => '.' :: Decimal.padded 3 (nanos / 1000000)
  | .fewest =>
    if nanos = 0 then []
    else if nanos % 1000000 = 0 then '.' :: Decimal.padded 3 (nanos / 1000000)
    else if nanos % 1000 = 0 then '.' :: Decimal.padded 6 (nanos / 1000)
    else '.' :: Decimal.padded 9 nanos

/-- A year: four digits, with a sign where it is outside 0 to 9999. -/
def yearText (year : Int) : List Char :=
  if 0 ≤ year ∧ year ≤ 9999 then Decimal.padded 4 year.toNat
  else (if year < 0 then '-' else '+') :: Decimal.padded 4 year.natAbs

/-- The text of an instant in UTC. -/
def chars (p : Precision) (t : Instant) : List Char :=
  let c := t.civil
  yearText c.date.year ++
    '-' :: Decimal.padded 2 c.date.month ++ '-' :: Decimal.padded 2 c.date.day ++
    'T' :: Decimal.padded 2 c.hour ++ ':' :: Decimal.padded 2 c.minute ++
    ':' :: Decimal.padded 2 c.second ++ fraction p c.nanos ++ ['Z']

/-- The text of an instant in UTC, with the fewest digits that lose nothing. -/
def text (t : Instant) : String :=
  String.ofList (t.chars .fewest)

/-- The text of an instant in UTC, cut to milliseconds. -/
def millisText (t : Instant) : String :=
  String.ofList (t.chars .millis)

/-! ### Reading -/

/-- Nanoseconds from the digits after the point; digits beyond the ninth are dropped. -/
def nanosOfDigits (ds : List Char) : Nat :=
  digitsValue 0 (ds.take 9) * Nat.pow 10 (9 - ds.length)

/-- Reads an optional point and fraction. -/
def scanFraction : Scan Nat := do
  match ← get with
  | '.' :: rest =>
    set rest
    return nanosOfDigits (← Scan.digits 1 none)
  | _ => return 0

/-- Reads two digits, as a number below 60. -/
def scanSixtieths : Scan Nat := do
  let n ← Scan.number 2 (some 2)
  if n < 60 then return n else failure

/-- Reads the hours and the minutes of an offset, in seconds, with `separator` between them. -/
def scanOffsetDigits (separator : Scan Unit) : Scan Int := do
  let hours ← Scan.number 2 (some 2)
  separator
  let minutes ← scanSixtieths
  return (hours * 3600 + minutes * 60 : Nat)

/-- Reads a signed offset in seconds; `minus` lists the characters that stand for a minus. -/
def scanSignedOffset (minus : List Char) (separator : Scan Unit) : Scan Int := do
  match ← get with
  | '+' :: rest =>
    set rest
    scanOffsetDigits separator
  | c :: rest =>
    if c ∈ minus then
      set rest
      return -(← scanOffsetDigits separator)
    else failure
  | [] => failure

/-- Reads a `Z` or a signed offset, in seconds. The minus may be the hyphen or the minus sign. -/
def scanOffset (separator : Scan Unit) : Scan Int := do
  match ← get with
  | 'Z' :: rest => set rest; return 0
  | 'z' :: rest => set rest; return 0
  | _ => scanSignedOffset ['-', '\u2212'] separator

/-- Reads a date and a time of day with the widths of RFC 3339. -/
def scanCivil : Scan Civil := do
  let year ← Scan.number 4 (some 4)
  Scan.char '-'
  let month ← Scan.number 2 (some 2)
  Scan.char '-'
  let day ← Scan.number 2 (some 2)
  Scan.oneOf ['t', 'T', ' ']
  let hour ← Scan.number 2 (some 2)
  Scan.char ':'
  let minute ← Scan.number 2 (some 2)
  Scan.char ':'
  let second ← Scan.number 2 (some 2)
  let nanos ← scanFraction
  return ⟨⟨year, month, day⟩, hour, minute, second, nanos⟩

/-- Reads an RFC 3339 text as the reading of a clock and that clock's offset. -/
def scanRfc3339 : Scan (Civil × Int) := do
  let c ← scanCivil
  let offset ← scanOffset (Scan.char ':')
  if offset.natAbs < 86400 then return (c, offset) else failure

/-- The instant that an RFC 3339 text denotes. -/
def parseChars? (s : List Char) : Option Instant := do
  let (c, offset) ← scanRfc3339.whole s
  ofCivil? c offset

/-- The instant that an RFC 3339 text denotes. -/
def parse? (s : String) : Option Instant :=
  parseChars? s.toList

/-- Reads leading blanks away. -/
def skipBlanks : Scan Unit :=
  Scan.skipWhile isBlank

/-- Reads blanks and a number of one or two digits. -/
def scanShort : Scan Nat := do
  skipBlanks
  Scan.number 1 (some 2)

/-- Reads a separator with blanks before it. -/
def scanSeparator (c : Char) : Scan Unit := do
  skipBlanks
  Scan.char c

/-- Reads a year: any number of digits after a sign, up to four without one. -/
def scanYear : Scan Int := do
  skipBlanks
  match ← get with
  | '-' :: rest =>
    set rest
    return -((← Scan.number 1 none : Nat) : Int)
  | '+' :: rest =>
    set rest
    return ((← Scan.number 1 none : Nat) : Int)
  | _ => return ((← Scan.number 1 (some 4) : Nat) : Int)

/-- Reads `UTC` in any case, or an offset whose parts may be set apart by colons and blanks. -/
def scanRelaxedOffset : Scan Int := do
  match ← get with
  | u :: t :: c :: rest =>
    if [u, t, c].map Char.toUpper = ['U', 'T', 'C'] then
      set rest
      return 0
    else scanOffset (Scan.skipWhile fun c ↦ c == ':' || isBlank c)
  | _ => scanOffset (Scan.skipWhile fun c ↦ c == ':' || isBlank c)

/-- Reads a date and time as people type it. -/
def scanRelaxed : Scan (Civil × Int) := do
  let year ← scanYear
  scanSeparator '-'
  let month ← scanShort
  scanSeparator '-'
  let day ← scanShort
  Scan.oneOf ['t', 'T', ' ']
  let hour ← scanShort
  scanSeparator ':'
  let minute ← scanShort
  scanSeparator ':'
  let second ← scanShort
  let nanos ← scanFraction
  skipBlanks
  let offset ← scanRelaxedOffset
  skipBlanks
  if offset.natAbs < 86400 then return (⟨⟨year, month, day⟩, hour, minute, second, nanos⟩, offset)
  else failure

/-- The instant that a date and time, as people type it, denotes. -/
def parseRelaxed? (s : String) : Option Instant := do
  let (c, offset) ← scanRelaxed.whole s.toList
  ofCivil? c offset

end AuditFeed.Instant
