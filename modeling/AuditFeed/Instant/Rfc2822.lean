import AuditFeed.Instant.Rfc3339

/-!
# RFC 2822

The dates of mail and of HTTP, such as `Wed, 21 Oct 2015 07:28:00 GMT`.

The day of the week may be left out but has to be right, the seconds may be left out, and names
count in either case. Two digits of a year below 50 are of this century and others of the last one,
as are three digits. Comments in parentheses may follow.
-/

namespace AuditFeed.Instant

open Calendar Text

/-- The days of the week, from Monday. -/
def weekdayNames : List String := ["mon", "tue", "wed", "thu", "fri", "sat", "sun"]

/-- The months of the year. -/
def monthNames : List String :=
  ["jan", "feb", "mar", "apr", "may", "jun", "jul", "aug", "sep", "oct", "nov", "dec"]

/-- Reads a name of three letters, in either case, as its place in a list. -/
def scanName (names : List String) : Scan Nat := do
  match ← get with
  | a :: b :: c :: rest =>
    match names.findIdx? fun name ↦ name.toList == [a, b, c].map Char.toLower with
    | some i => set rest; return i
    | none => failure
  | _ => failure

/-- Reads one or more blanks. -/
def scanBlanks : Scan Unit := do
  match ← get with
  | c :: _ => if isBlank c then skipBlanks else failure
  | [] => failure

/-- Reads a day of the week and a comma, if the text starts with the name of one. -/
def scanWeekday : Scan (Option Nat) := do
  let s ← get
  match (scanName weekdayNames).run s with
  | some (day, rest) =>
    set rest
    Scan.char ','
    return some day
  | none => return none

/-- The year that two, three or more digits write. -/
def yearOfDigits (ds : List Char) : Nat :=
  let n := digitsValue 0 ds
  match ds.length with
  | 2 => if n < 50 then n + 2000 else n + 1900
  | 3 => n + 1900
  | _ => n

/-- The hours of the zones that have names. -/
def zoneHours? (name : List Char) : Option Int :=
  match String.ofList (name.map Char.toLower) with
  | "gmt" | "ut" | "z" => some 0
  | "edt" => some (-4)
  | "est" | "cdt" => some (-5)
  | "cst" | "mdt" => some (-6)
  | "mst" | "pdt" => some (-7)
  | "pst" => some (-8)
  | _ =>
    match name with
    | [c] => if c.toLower = 'j' then none else some 0
    | _ => none

/-- Reads the name of a zone, or a sign and four digits, as an offset in seconds. A single letter
other than J says nothing and stands for none. -/
def scanZone : Scan Int := do
  let s ← get
  match s.takeWhile Char.isAlpha with
  | [] => scanSignedOffset ['-'] (pure ())
  | name =>
    set (s.drop name.length)
    match zoneHours? name with
    | some hours => return hours * 3600
    | none => failure

/-- The text after a comment whose parentheses are open `depth` times. A backslash takes the
character after it out of the count. -/
def afterComment : Nat → List Char → Option (List Char)
  | _, [] => none
  | depth, '\\' :: _ :: s => afterComment depth s
  | _, ['\\'] => none
  | depth, '(' :: s => afterComment (depth + 1) s
  | depth, ')' :: s => if depth ≤ 1 then some s else afterComment (depth - 1) s
  | depth, _ :: s => afterComment depth s

/-- The text after leading comments; each of them may follow blanks. -/
def dropComments : Nat → List Char → List Char
  | 0, s => s
  | fuel + 1, s =>
    match dropBlanks s with
    | '(' :: r =>
      match afterComment 1 r with
      | some r => dropComments fuel r
      | none => s
    | _ => s

/-- Reads a date, and the day of the week that it claims. -/
def scanRfc2822 : Scan (Option Nat × Civil × Int) := do
  skipBlanks
  let claimed ← scanWeekday
  skipBlanks
  let day ← Scan.number 1 (some 2)
  scanBlanks
  let month ← scanName monthNames
  scanBlanks
  let year := yearOfDigits (← Scan.digits 2 none)
  scanBlanks
  let hour ← Scan.number 2 (some 2)
  scanSeparator ':'
  skipBlanks
  let minute ← Scan.number 2 (some 2)
  let second ← scanSeconds
  scanBlanks
  let offset ← scanZone
  modify fun s ↦ dropComments s.length s
  return (claimed, ⟨⟨year, month + 1, day⟩, hour, minute, second, 0⟩, offset)
where
  /-- Reads a colon and the seconds, if there is a colon. -/
  scanSeconds : Scan Nat := do
    match dropBlanks (← get) with
    | ':' :: rest =>
      set rest
      Scan.number 2 (some 2)
    | _ => return 0

/-- The instant that an RFC 2822 date denotes. -/
def parseRfc2822? (s : List Char) : Option Instant := do
  let (claimed, c, offset) ← scanRfc2822.whole s
  guard (offset.natAbs < 86400)
  let t ← ofCivil? c offset
  if claimed.all (· == weekday c.date.toDays) then some t else none

end AuditFeed.Instant
