import AuditFeed.Decimal.Binary64
import AuditFeed.Decimal.Digits
import AuditFeed.Instant.Calendar
import AuditFeed.Text.Scan
import AuditFeed.Toml.Value
import AuditFeed.Word

/-!
# The words of a TOML document

Keys, strings, numbers and moments. Lines end in a line feed here; the parser has dropped the
carriage returns in front of them, and any other carriage return has no place in a document.

## Strings

A string stands in double quotes, with escapes, or in single ones, without. Three quotes of either
kind open a **long** string, which goes over lines and may hold one or two quotes in a row, also at
its end.
-/

namespace AuditFeed.Toml

open Text

/-- The blanks inside a line. -/
def isGap (c : Char) : Bool :=
  c == ' ' || c == '\t'

/-- Can this character stand in a comment or a string: is it a tab or no control character? -/
def isPlain (c : Char) : Bool :=
  c == '\t' || (0x20 ≤ c.toNat && c.toNat != 0x7F)

/-- Reads the blanks of a line away. -/
def skipGap : Scan Unit :=
  Scan.skipWhile isGap

/-- The text after blanks, comments and line ends; `inside` says whether it starts in a comment. -/
def afterLines (inside : Bool) : List Char → Option (List Char)
  | [] => some []
  | c :: s =>
    if c = '\n' then afterLines false s
    else if inside then if isPlain c then afterLines true s else none
    else if isGap c then afterLines false s
    else if c = '#' then afterLines true s
    else some (c :: s)

/-- Reads blanks, comments and line ends away. -/
def skipLines : Scan Unit := fun s ↦ do
  return ((), ← afterLines false s)

/-- Reads the rest of a line: blanks and a comment, and the line's end unless the document ends. -/
def endLine : Scan Unit := fun s ↦
  let s := s.dropWhile isGap
  let s := if s.head? = some '#' then s.dropWhile isPlain else s
  match s with
  | [] => some ((), [])
  | '\n' :: s => some ((), s)
  | _ => none

/-! ### Strings -/

/-- Where in a string with escapes a reader is. -/
inductive Place where
  /-- Between two characters; `fold` says whether blanks and line ends do not count. -/
  | between (fold : Bool)
  /-- After a backslash. -/
  | escape
  /-- In a code of digits, with so many to come after the next one and the value of those before. -/
  | code (more value : Nat)

/-- The character that a short escape stands for. -/
def shortEscape? : Char → Option Char
  | '"' => some '"'
  | '\\' => some '\\'
  | 'b' => some '\x08'
  | 'f' => some '\x0c'
  | 'n' => some '\n'
  | 'r' => some '\r'
  | 't' => some '\t'
  | _ => none

/-- The character of a number, if there is one. -/
def charOf? (n : Nat) : Option Char :=
  if n.isValidChar then some (Char.ofNat n) else none

/-- A character in front of what is read after it. -/
def before (c : Char) (rest : Option (List Char × List Char)) : Option (List Char × List Char) :=
  rest.map fun (cs, s) ↦ (c :: cs, s)

/-- The end of a string at a quote, with what is left: the quotes that still belong to the string.
A long string goes on after one or two quotes. -/
def close? (long : Bool) (quote : Char) (s : List Char) : Option (List Char × List Char) :=
  if long then
    let run := (s.takeWhile (· == quote)).length + 1
    let extra := min 2 (run - 3)
    if run < 3 then none else some (List.replicate extra quote, s.drop (extra + 2))
  else some ([], s)

/-- Reads a string with escapes up to its closing quote. -/
def escapedText (long : Bool) : Place → Scan (List Char)
  | _, [] => none
  | .between fold, c :: s =>
    if fold && (isGap c || c == '\n') then escapedText long (.between true) s
    else if c = '"' then
      close? long '"' s <|> before c (escapedText long (.between false) s)
    else if c = '\\' then escapedText long .escape s
    else if isPlain c || (long && c == '\n') then
      before c (escapedText long (.between false) s)
    else none
  | .escape, c :: s =>
    if c = 'u' then escapedText long (.code 3 0) s
    else if c = 'U' then escapedText long (.code 7 0) s
    else if isGap c || c == '\n' then
      if long && ((c :: s).dropWhile isGap).head? == some '\n' then
        escapedText long (.between true) s
      else none
    else do before (← shortEscape? c) (escapedText long (.between false) s)
  | .code more value, c :: s => do
    let value := value * 16 + (← hexValue? c)
    match more with
    | 0 => before (← charOf? value) (escapedText long (.between false) s)
    | more + 1 => escapedText long (.code more value) s

/-- Reads a string without escapes up to its closing quote. -/
def literalText (long : Bool) : Scan (List Char)
  | [] => none
  | c :: s =>
    if c = '\'' then close? long '\'' s <|> before c (literalText long s)
    else if isPlain c || (long && c == '\n') then before c (literalText long s)
    else none

/-- The text after the line end that may open a long string. -/
def dropLineEnd : List Char → List Char
  | '\n' :: s => s
  | s => s

/-- Reads a string of one line. -/
def shortString : Scan (List Char)
  | '"' :: s => escapedText false (.between false) s
  | '\'' :: s => literalText false s
  | _ => none

/-- Reads a string. -/
def string : Scan (List Char)
  | '"' :: '"' :: '"' :: s => escapedText true (.between false) (dropLineEnd s)
  | '\'' :: '\'' :: '\'' :: s => literalText true (dropLineEnd s)
  | s => shortString s

/-! ### Keys -/

/-- Can a name hold this character without quotes? -/
def isBare (c : Char) : Bool :=
  c.isAlphanum || c == '_' || c == '-'

/-- Reads a name. -/
def name : Scan String := fun s ↦
  match s with
  | '"' :: _ | '\'' :: _ => (shortString s).map fun (cs, s) ↦ (String.ofList cs, s)
  | _ =>
    let run := s.takeWhile isBare
    if run = [] then none else some (String.ofList run, s.drop run.length)

/-- Reads a key: at most so many names with dots between them. -/
def key : Nat → Scan (List String)
  | 0 => failure
  | most + 1 => do
    skipGap
    let first ← name
    skipGap
    match ← get with
    | '.' :: s =>
      set s
      return first :: (← key most)
    | _ => return [first]

/-! ### Numbers -/

/-- Reads the digits of a kind after the first one. A single underscore may stand between two. -/
def moreDigits (isOne : Char → Bool) : Scan (List Char)
  | [] => some ([], [])
  | c :: s =>
    if isOne c then before c (moreDigits isOne s)
    else if c = '_' then if s.head?.any isOne then moreDigits isOne s else none
    else some ([], c :: s)

/-- Reads digits of a kind, at least one of them. -/
def digitRun (isOne : Char → Bool) : Scan (List Char)
  | [] => none
  | c :: s => if isOne c then before c (moreDigits isOne s) else none

/-- Reads the sign of a number: is it a minus? -/
def sign : Scan Bool := fun s ↦
  match s with
  | '-' :: s => some (true, s)
  | '+' :: s => some (false, s)
  | _ => some (false, s)

/-- Reads decimal digits without leading zeros. -/
def wholeDigits : Scan (List Char) := fun s ↦
  match s with
  | '0' :: s => some (['0'], s)
  | _ => digitRun isDigit s

/-- The number that digits in some base write. -/
def digitsIn (base : Nat) (ds : List Char) : Nat :=
  ds.foldl (fun n d ↦ n * base + (hexValue? d).getD 0) 0

/-- An integer, if 64 bits hold it. -/
def integerOf (n : Int) : Option Value :=
  if -(Word.limit63 : Int) ≤ n ∧ n < Word.limit63 then some (.integer n) else none

/-- Reads an integer in some base after its mark. -/
def integerIn (base : Nat) : Scan Value := do
  let ds ← digitRun fun c ↦ (hexValue? c).any (· < base)
  StateT.lift (integerOf (digitsIn base ds))

/-- Reads an integer. -/
def integer : Scan Value := fun s ↦
  match s with
  | '0' :: 'x' :: s => integerIn 16 s
  | '0' :: 'o' :: s => integerIn 8 s
  | '0' :: 'b' :: s => integerIn 2 s
  | _ => do
    let (minus, s) ← sign s
    let (ds, s) ← wholeDigits s
    let n : Int := digitsValue 0 ds
    return (← integerOf (if minus then -n else n), s)

/-- Is `digits · 10 ^ shift` within the range of doubles? -/
def isFinite (digits : List Char) (shift : Int) : Bool :=
  let n := digitsValue 0 digits
  let size := (Decimal.digits n).length + shift
  if n = 0 ∨ size < 309 then true
  else if 309 < size then false
  else
    let (num, den) := Decimal.scaleRatio 10 n 1 shift
    (Decimal.Binary64.ofRatio? num den).isSome

/-- Reads the fraction of a number after its point. -/
def fraction : Scan (List Char) := do
  Scan.char '.'
  digitRun isDigit

/-- Reads an exponent. -/
def exponent : Scan Int := do
  Scan.oneOf ['e', 'E']
  let minus ← sign
  let n : Int := digitsValue 0 (← digitRun isDigit)
  return if minus then -n else n

/-- Reads a fraction with or without an exponent, or an exponent alone. -/
def tail : Scan (List Char × Int) :=
  (do
    let ds ← fraction
    return (ds, ← exponent <|> pure 0)) <|>
  (do return ([], ← exponent))

/-- Reads a number with a point or an exponent. It must not be too large; a negative one may be. -/
def decimal : Scan Value := fun s ↦ do
  let (minus, s') ← sign s
  let (whole, s') ← wholeDigits s'
  let ((places, shift), rest) ← tail s'
  guard (minus || isFinite (whole ++ places) (shift - places.length))
  return (.decimal (String.ofList (s.take (s.length - rest.length))), rest)

/-- Reads one of the words for what is no number. -/
def special : Scan Value := fun s ↦ do
  let (minus, rest) ← sign s
  let mark := if minus then "-" else ""
  match rest with
  | 'i' :: 'n' :: 'f' :: rest => return (.decimal (mark ++ "inf"), rest)
  | 'n' :: 'a' :: 'n' :: rest => return (.decimal (mark ++ "nan"), rest)
  | _ => none

/-! ### Moments -/

/-- Reads a number of exactly so many digits, up to a greatest one. -/
def part (width most : Nat) : Scan Nat := do
  let n ← Scan.number width (some width)
  guard (n ≤ most)
  return n

/-- Reads a date of the calendar. -/
def date : Scan Unit := do
  let year ← part 4 9999
  Scan.char '-'
  let month ← part 2 12
  Scan.char '-'
  let day ← part 2 31
  guard (Calendar.Date.isValid ⟨year, month, day⟩)

/-- Reads a time of the day. -/
def time : Scan Unit := do
  discard (part 2 23)
  Scan.char ':'
  discard (part 2 59)
  Scan.char ':'
  discard (part 2 60)
  (do Scan.char '.'; discard (Scan.digits 1 none)) <|> pure ()

/-- Reads the distance from universal time. -/
def offset : Scan Unit :=
  Scan.oneOf ['Z', 'z'] <|> do
    Scan.oneOf ['+', '-']
    discard (part 2 23)
    Scan.char ':'
    discard (part 2 59)

/-- Reads a moment: a date, a time, or a date and a time with or without an offset. -/
def moment : Scan Value := fun s ↦ do
  let clock : Scan Unit := do
    Scan.oneOf ['T', 't', ' ']
    time
    offset <|> pure ()
  let (_, rest) ← ((do date; clock <|> pure ()) <|> time : Scan Unit) s
  return (.moment (String.ofList (s.take (s.length - rest.length))), rest)

/-- Reads a number or a moment. -/
def numeral : Scan Value :=
  moment <|> decimal <|> special <|> integer

end AuditFeed.Toml
