import AuditFeed.Text.Charset.Big5
import AuditFeed.Text.Charset.Gb18030
import AuditFeed.Text.Charset.Japanese
import AuditFeed.Text.Charset.Korean
import AuditFeed.Text.Charset.SingleByte
import AuditFeed.Text.Scan
import AuditFeed.Text.Utf8

/-!
# Character encodings

How bytes are read as text when a sender names the encoding. A mark at the start of the bytes wins
over the name, and a name that is not known counts as UTF-8. Bytes that are no text read as the
replacement character.

## Media types

The name is the `charset` parameter of a media type: a type, a slash, a subtype, and parameters
after semicolons. A text that is no media type names nothing, whatever it holds.
-/

namespace AuditFeed.Text

/-- A character encoding. -/
inductive Charset where
  | utf8
  /-- Two bytes for each unit, the greater one first or last. -/
  | utf16 (bigEndian : Bool)
  /-- ASCII and 128 further characters, by their numbers. -/
  | singleByte (upper : Array Nat)
  /-- Several bytes for each character. -/
  | multiByte (step : ByteStep)
  /-- Seven bits with escapes. -/
  | escaped
  /-- Any text reads as one replacement character, since reading it would not be safe. -/
  | refused

namespace Charset

/-- The names of the encodings that are not of one byte for each character. -/
def otherLabels : List (List String × Charset) :=
  [(["unicode-1-1-utf-8", "unicode11utf8", "unicode20utf8", "utf-8", "utf8", "x-unicode20utf8"],
      .utf8),
    (["unicodefffe", "utf-16be"], .utf16 true),
    (["csunicode", "iso-10646-ucs-2", "ucs-2", "unicode", "unicodefeff", "utf-16", "utf-16le"],
      .utf16 false),
    (["big5", "big5-hkscs", "cn-big5", "csbig5", "x-x-big5"], .multiByte Big5.step),
    (["chinese", "csgb2312", "csiso58gb231280", "gb18030", "gb2312", "gb_2312", "gb_2312-80", "gbk",
      "iso-ir-58", "x-gbk"], .multiByte Gb18030.step),
    (["cseuckr", "csksc56011987", "euc-kr", "iso-ir-149", "korean", "ks_c_5601-1987",
      "ks_c_5601-1989", "ksc5601", "ksc_5601", "windows-949"], .multiByte Korean.step),
    (["csshiftjis", "ms932", "ms_kanji", "shift-jis", "shift_jis", "sjis", "windows-31j",
      "x-sjis"], .multiByte ByteStep.shiftJis),
    (["cseucpkdfmtjapanese", "euc-jp", "x-euc-jp"], .multiByte ByteStep.eucJp),
    (["csiso2022jp", "iso-2022-jp"], .escaped),
    (["x-user-defined"], .singleByte (Array.ofFn fun i : Fin 128 ↦ 0xF780 + i.val)),
    (["csiso2022kr", "hz-gb-2312", "iso-2022-cn", "iso-2022-cn-ext", "iso-2022-kr", "replacement"],
      .refused)]

/-- The encoding of a name, in any case and with blanks around it. -/
def ofLabel? (label : List Char) : Option Charset :=
  let blank := fun c ↦ c == ' ' || c == '\t' || c == '\n' || c == '\x0c' || c == '\r'
  let trimmed := ((label.dropWhile blank).reverse.dropWhile blank).reverse
  let name := String.ofList (trimmed.map Char.toLower)
  let known := otherLabels ++ singleByteLabels.map fun (names, upper) ↦ (names, singleByte upper)
  (known.find? fun (names, _) ↦ names.contains name).map (·.2)

/-! ### Reading -/

/-- The units that pairs of bytes write, and whether a byte is left over. -/
def units (bigEndian : Bool) : List UInt8 → List Nat × Bool
  | a :: b :: rest =>
    let unit := if bigEndian then a.toNat * 256 + b.toNat else b.toNat * 256 + a.toNat
    let (us, odd) := units bigEndian rest
    (unit :: us, odd)
  | [_] => ([], true)
  | [] => ([], false)

/-- The text that 16-bit units write. A half of a surrogate pair alone reads as the replacement
character, which at the end also stands for a byte left over. -/
def ofUnits (odd : Bool) : List Nat → List Char
  | [] => if odd then [replacement] else []
  | [u] =>
    if 0xD800 ≤ u ∧ u < 0xDC00 then [replacement]
    else if 0xDC00 ≤ u ∧ u < 0xE000 then replacement :: ofUnits odd []
    else Char.ofNat u :: ofUnits odd []
  | u :: v :: rest =>
    if 0xD800 ≤ u ∧ u < 0xDC00 then
      if 0xDC00 ≤ v ∧ v < 0xE000 then
        Char.ofNat (0x10000 + (u - 0xD800) * 0x400 + (v - 0xDC00)) :: ofUnits odd rest
      else replacement :: ofUnits odd (v :: rest)
    else if 0xDC00 ≤ u ∧ u < 0xE000 then replacement :: ofUnits odd (v :: rest)
    else Char.ofNat u :: ofUnits odd (v :: rest)

/-- The text that bytes write. -/
def read (c : Charset) (bytes : List UInt8) : List Char :=
  match c with
  | .utf8 => decodeUtf8Lossy bytes
  | .utf16 bigEndian =>
    let (us, odd) := units bigEndian bytes
    ofUnits odd us
  | .singleByte upper =>
    bytes.map fun b ↦
      if b.toNat < 0x80 then Char.ofNat b.toNat
      else Char.ofNat (upper.getD (b.toNat - 0x80) replacement.toNat)
  | .multiByte step => readBytes step 0 bytes
  | .escaped => EscapeMode.ascii.read false bytes
  | .refused => if bytes.isEmpty then [] else [replacement]

/-- The text that bytes write, in the encoding that their first bytes mark or else in this one. -/
def decode (c : Charset) (bytes : List UInt8) : List Char :=
  match bytes with
  | 0xEF :: 0xBB :: 0xBF :: rest => utf8.read rest
  | 0xFE :: 0xFF :: rest => (utf16 true).read rest
  | 0xFF :: 0xFE :: rest => (utf16 false).read rest
  | bytes => c.read bytes

end Charset

/-! ### Media types -/

namespace MediaType

/-- The signs that a word of a media type may hold beside letters and digits. -/
def wordSigns : List Char := "!#$%&'*+-.^_|~".toList.concat (Char.ofNat 0x60)

/-- May a word of a media type hold this character? -/
def isWordChar (c : Char) : Bool :=
  c.isAlphanum || wordSigns.contains c

/-- Reads a word. -/
def word (least : Nat) : Scan (List Char) := fun s ↦
  let run := s.takeWhile isWordChar
  if least ≤ run.length then some (run, s.drop run.length) else none

/-- May a quoted value hold this character beside quotes? -/
def isQuotable (c : Char) : Bool :=
  0x20 ≤ c.toNat && c.toNat != 0x7F

/-- Reads the rest of a quoted value and the blanks behind it. The value is not empty: it ends at
the first quote that is not its first character. -/
def quotedRest : List Char → Option (List Char × List Char)
  | [] => none
  | c :: s =>
    let run := s.takeWhile (· != '"')
    match (c :: run).all isQuotable, s.drop run.length with
    | true, '"' :: rest => some (c :: run, rest.dropWhile (· == ' '))
    | _, _ => none

/-- Reads a value: quoted, or a word that may only be empty at the end. -/
def value : Scan (List Char)
  | '"' :: s => quotedRest s
  | s => do
    let (v, rest) ← word 0 s
    if v.isEmpty && !rest.isEmpty then none else return (v, rest)

/-- Reads a parameter: a name, an equals sign and a value. -/
def parameter : Scan (List Char × List Char) := do
  let name ← word 1
  Scan.char '='
  return (name, ← value)

/-- Reads parameters with a semicolon behind each but the last, where it may be missing, and with
blanks in front of them, in at most `fuel` steps. -/
def parameters : Nat → List Char → Option (List (List Char × List Char))
  | _, [] => some []
  | 0, _ :: _ => none
  | fuel + 1, ' ' :: s => parameters fuel s
  | fuel + 1, s => do
    let (p, rest) ← parameter s
    match rest with
    | [] => return [p]
    | ';' :: rest => return p :: (← parameters fuel rest)
    | _ => none

/-- The parameters of a media type; `none` for a text that is no media type. -/
def parameters? (s : List Char) : Option (List (List Char × List Char)) := do
  let (_, rest) ← word 1 s
  let (_, rest) ← Scan.char '/' rest
  let (_, rest) ← word 1 rest
  match rest with
  | [] => some []
  | ';' :: rest => parameters rest.length rest
  | _ => none

end MediaType

/-- The encoding that a media type names; UTF-8 if it names none that is known. -/
def Charset.ofMediaType (s : List Char) : Charset :=
  let named : Option Charset := do
    let ps ← MediaType.parameters? s
    let (_, label) ← ps.find? fun p ↦ p.1.map Char.toLower == "charset".toList
    Charset.ofLabel? label
  named.getD .utf8

end AuditFeed.Text
