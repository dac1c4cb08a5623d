import AuditFeed.Text.Charset.Jis

/-!
# Japanese encodings

Three ways to write the characters of JIS X 0208, and the half-width katakana beside them: with
trail bytes that may be ASCII, with all bytes above ASCII, and in seven bits with escapes that tell
what the bytes behind them are.
-/

namespace AuditFeed.Text

/-- The half-width katakana at a place in its column. -/
def halfKatakana (i : Nat) : Char := Char.ofNat (0xFF61 + i)

/-- The character of a table at a row and a column, both counted from a base. -/
def CodeTable.at? (t : CodeTable) (base row column : Nat) : Option Char :=
  if base ≤ row ∧ row < base + 94 ∧ base ≤ column ∧ column < base + 94 then
    t.char? ((row - base) * 94 + (column - base))
  else none

namespace ByteStep

/-! ### Shift JIS -/

/-- The character of two bytes in Shift JIS. Ten rows of lead bytes are for private use. -/
def shiftJisChar? (lead trail : Nat) : Option Char :=
  if 0x40 ≤ trail ∧ trail ≤ 0xFC ∧ trail ≠ 0x7F then
    let row := lead - if lead < 0xA0 then 0x81 else 0xC1
    let position := row * 188 + trail - if trail < 0x7F then 0x40 else 0x41
    if 8836 ≤ position ∧ position ≤ 10715 then some (Char.ofNat (0xE000 + position - 8836))
    else jis0208.char? position
  else none

/-- Reads Shift JIS. -/
def shiftJis : ByteStep := fun b rest ↦
  if b ≤ 0x80 then ascii b
  else if within 0xA1 0xDF b then single (halfKatakana (b.toNat - 0xA1))
  else if within 0x81 0x9F b || within 0xE0 0xFC b then
    pair (fun lead trail ↦ (shiftJisChar? lead trail).map ([·])) b rest
  else bad

/-! ### Extended Unix code -/

/-- The text of two bytes in extended Unix code. -/
def eucJpText? (lead trail : Nat) : Option (List Char) :=
  if lead = 0x8E then
    if 0xA1 ≤ trail ∧ trail ≤ 0xDF then some [halfKatakana (trail - 0xA1)] else none
  else (jis0208.at? 0xA1 lead trail).map ([·])

/-- Reads extended Unix code. A single shift announces a character of JIS X 0212. -/
def eucJp : ByteStep := fun b rest ↦
  if isAscii b then ascii b
  else
    match b, rest with
    | 0x8F, row :: rest =>
      if within 0xA1 0xFE row then
        let (text, more) := pair (fun row column ↦ (jis0212.at? 0xA1 row column).map ([·])) row rest
        (text, more + 1)
      else pair eucJpText? b (row :: rest)
    | _, rest =>
      if b = 0x8E || b = 0x8F || within 0xA1 0xFE b then pair eucJpText? b rest else bad

end ByteStep

/-! ### Seven bits with escapes -/

/-- What the bytes behind an escape are. -/
inductive EscapeMode where
  | ascii
  /-- ASCII with a yen sign and an overline. -/
  | roman
  | katakana
  /-- Rows and columns of JIS X 0208. -/
  | kanji
deriving DecidableEq

namespace EscapeMode

/-- The mode that the two bytes of an escape announce. -/
def ofEscape? : UInt8 → UInt8 → Option EscapeMode
  | 0x28, 0x42 => some ascii
  | 0x28, 0x4A => some roman
  | 0x28, 0x49 => some katakana
  | 0x24, 0x40 => some kanji
  | 0x24, 0x42 => some kanji
  | _, _ => none

/-- The character of one byte. -/
def single (m : EscapeMode) (b : UInt8) : Char :=
  match m with
  | ascii => plain b
  | roman => if b = 0x5C then '¥' else if b = 0x7E then '‾' else plain b
  | katakana =>
    if 0x21 ≤ b ∧ b ≤ 0x5F then halfKatakana (b.toNat - 0x21) else replacement
  | kanji => replacement
where
  /-- A byte of ASCII that is no shift. -/
  plain (b : UInt8) : Char :=
    if b < 0x80 ∧ b ≠ 0x0E ∧ b ≠ 0x0F then Char.ofNat b.toNat else replacement

/-- Is this byte a row or a column? -/
def isPlace (b : UInt8) : Bool := 0x21 ≤ b && b ≤ 0x7E

/-- The text of bytes. An escape that announces nothing is a fault, and so is one right behind
another, which is what `idle` says. -/
def read : EscapeMode → Bool → List UInt8 → List Char
  | _, _, [] => []
  | m, _, [0x1B] => replacement :: read m false []
  | m, _, [0x1B, a] => replacement :: read m false [a]
  | m, idle, 0x1B :: a :: b :: rest =>
    match ofEscape? a b with
    | some m => (if idle then [replacement] else []) ++ read m true rest
    | none => replacement :: read m false (a :: b :: rest)
  | m, _, b :: c :: rest =>
    if m = kanji ∧ isPlace b then
      if c = 0x1B then replacement :: read m false (c :: rest)
      else (jis0208.at? 0x21 b.toNat c.toNat).getD replacement :: read m false rest
    else m.single b :: read m false (c :: rest)
  | m, _, [b] => [m.single b]

end EscapeMode

end AuditFeed.Text
