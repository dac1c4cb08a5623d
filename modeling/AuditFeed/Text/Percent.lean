import AuditFeed.Text.Scan
import AuditFeed.Text.Utf8

/-!
# Percent-encoding

Two ways to write a text in a URL. `percentEncode` keeps the characters of a given class and writes
the bytes of all others as a percent sign and two upper case hexadecimal digits. A form writes its
pairs in the same way, with a plus for a space, an equals sign inside a pair and an ampersand
between pairs.
-/

namespace AuditFeed.Text

/-- The upper case hexadecimal digit of a number below 16. -/
def upperHexDigit (n : Nat) : Char :=
  if n < 10 then Char.ofNat (48 + n) else Char.ofNat (55 + n)

/-- A byte as a percent sign and two digits. -/
def percentByte (b : UInt8) : List Char :=
  ['%', upperHexDigit (b.toNat / 16), upperHexDigit (b.toNat % 16)]

/-- A text with all bytes of the characters outside a class encoded. -/
def percentEncode (keep : Char → Bool) (s : List Char) : List Char :=
  s.flatMap fun c ↦ if keep c then [c] else (utf8Char c).flatMap percentByte

/-- The characters that a part of a URL may hold in any place: letters, digits and four signs. -/
def isUnreserved (c : Char) : Bool :=
  c.isAlphanum || c == '-' || c == '_' || c == '.' || c == '~'

/-- A text as one part of a URL. -/
def encodePart (s : String) : String :=
  String.ofList (percentEncode isUnreserved s.toList)

/-- The bytes of a text with its encoded bytes read. A percent sign without two digits stands for
itself. -/
def percentBytes : List Char → List UInt8
  | [] => []
  | '%' :: a :: b :: s =>
    match hexValue? a, hexValue? b with
    | some x, some y => (x * 16 + y).toUInt8 :: percentBytes s
    | _, _ => utf8Char '%' ++ percentBytes (a :: b :: s)
  | c :: s => utf8Char c ++ percentBytes s

/-- The text that percent-encoding writes. -/
def percentDecode (s : List Char) : List Char :=
  decodeUtf8Lossy (percentBytes s)

/-! ### Forms -/

namespace Form

/-- The characters that a form leaves as they are. -/
def isKept (c : Char) : Bool :=
  c.isAlphanum || c == '*' || c == '-' || c == '.' || c == '_'

/-- A name or a value in a form. -/
def encodeField (s : List Char) : List Char :=
  s.flatMap fun c ↦
    if c = ' ' then ['+'] else if isKept c then [c] else (utf8Char c).flatMap percentByte

/-- The pairs of a form. -/
def encode (pairs : List (String × String)) : List Char :=
  List.intercalate ['&'] <|
    pairs.map fun (k, v) ↦ encodeField k.toList ++ '=' :: encodeField v.toList

/-- The text that a name or a value in a form stands for. -/
def decodeField (s : List Char) : String :=
  String.ofList (percentDecode (s.map fun c ↦ if c = '+' then ' ' else c))

/-- The pair that one part of a form stands for. -/
def decodePair (s : List Char) : String × String :=
  (decodeField (s.takeWhile (· != '=')), decodeField ((s.dropWhile (· != '=')).drop 1))

/-- The pairs that a form stands for; empty parts stand for none. -/
def decode (s : List Char) : List (String × String) :=
  ((s.splitOn '&').filter (!·.isEmpty)).map decodePair

end Form

end AuditFeed.Text
