import AuditFeed.Json.Value
import AuditFeed.Text.Quoted
import AuditFeed.Text.Utf8

/-!
# Reading JSON

The grammar of JSON: four blanks, no trailing commas, no comments, no leading zeros. The reader
answers a `Value`; whether its numbers, strings and depth are usable is for the decoder to ask.

## Failures

A document that stops early is told apart from one that is wrong, since the former can be a sign
that a connection was lost.

## Bytes

Bytes that are no UTF-8 make a string unusable without making the document ill-formed. The escape
of a lone surrogate does the same, so `parseBytes` puts one in the place of each ill-formed
stretch and reads text.
-/

namespace AuditFeed.Json

open Text

/-- Why a document is not a value of the program. -/
inductive Error where
  /-- The document stops before it is complete. -/
  | truncated
  /-- The document is not JSON. -/
  | malformed
  /-- The document is JSON of another shape. Where a string stands in place of another kind of
  value, it is told. -/
  | mismatch (found : Option String)
deriving DecidableEq

/-- The text of a failure. -/
def Error.message : Error → String
  | .truncated => "EOF inside the document"
  | .malformed => "the document is not JSON"
  | .mismatch _ => "the document has another shape"

/-- The text of a failure with what was found. -/
def Error.detail (e : Error) : String :=
  match e with
  | .mismatch (some found) => s!"{e.message}: {quoted found}"
  | e => e.message

/-- Reads something off the front of a text. -/
abbrev Reader (α : Type) := List Char → Except Error (α × List Char)

/-- The failure at a place where the text cannot go on as it does. -/
def refuse (s : List Char) : Except Error α :=
  .error (if s.isEmpty then .truncated else .malformed)

/-- The blanks between tokens. -/
def isGap (c : Char) : Bool :=
  c == ' ' || c == '\n' || c == '\t' || c == '\r'

/-- The text after leading blanks. -/
def skipGap (s : List Char) : List Char :=
  s.dropWhile isGap

/-- Reads the rest of a word. -/
def readWord : List Char → List Char → Except Error (List Char)
  | [], s => .ok s
  | w :: ws, c :: s => if c = w then readWord ws s else .error .malformed
  | _ :: _, [] => .error .truncated

/-! ### Numbers -/

/-- Reads one or more digits. -/
def readDigits : Reader (List Char) := fun s ↦
  match s.takeWhile isDigit with
  | [] => refuse s
  | ds => .ok (ds, s.drop ds.length)

/-- Reads the digits before the point: a zero alone, or digits that do not start with one. -/
def readWhole : Reader (List Char) := fun s ↦ do
  let (ds, rest) ← readDigits s
  if ds.head? = some '0' ∧ ds.length ≠ 1 then .error .malformed else .ok (ds, rest)

/-- Reads a point and the digits after it, if there is a point. -/
def readFraction : Reader (List Char)
  | '.' :: s => readDigits s
  | s => .ok ([], s)

/-- Reads the digits of an exponent. -/
def readExponentDigits (minus : Bool) : Reader (Option (Bool × List Char)) := fun s ↦ do
  let (ds, rest) ← readDigits s
  return (some (minus, ds), rest)

/-- Reads an exponent, if there is one. -/
def readExponent : Reader (Option (Bool × List Char))
  | [] => .ok (none, [])
  | c :: s =>
    if c = 'e' ∨ c = 'E' then
      match s with
      | '-' :: s => readExponentDigits true s
      | '+' :: s => readExponentDigits false s
      | s => readExponentDigits false s
    else .ok (none, c :: s)

/-- Reads a number after its sign. -/
def readNumeral (negative : Bool) : Reader Numeral := fun s ↦ do
  let (whole, s) ← readWhole s
  let (fraction, s) ← readFraction s
  let (exponent, s) ← readExponent s
  return (⟨negative, whole, fraction, exponent⟩, s)

/-! ### Strings -/

/-- A part of a string: a character, or an escaped half of a surrogate pair. -/
inductive Piece where
  | char (c : Char)
  | half (unit : Nat)
deriving DecidableEq

/-- The part that four hexadecimal digits escape. -/
def Piece.ofHex? (a b c d : Char) : Option Piece := do
  let n := (((← hexValue? a) * 16 + (← hexValue? b)) * 16 + (← hexValue? c)) * 16 + (← hexValue? d)
  return if 0xD800 ≤ n ∧ n < 0xE000 then .half n else .char (Char.ofNat n)

/-- The character that a short escape stands for. -/
def shortEscape? : Char → Option Char
  | '"' => some '"'
  | '\\' => some '\\'
  | '/' => some '/'
  | 'b' => some '\x08'
  | 'f' => some '\x0c'
  | 'n' => some '\n'
  | 'r' => some '\r'
  | 't' => some '\t'
  | _ => none

/-- A part of a string in front of the parts after it. -/
def Piece.before (p : Option Piece) (rest : Except Error (List Piece × List Char)) :
    Except Error (List Piece × List Char) :=
  match p with
  | none => .error .malformed
  | some p => rest.map fun (ps, s) ↦ (p :: ps, s)

/-- The fault of a text that should go on with the four bytes of a code unit. -/
def unitFault (s : List Char) : Error :=
  if (s.take 4).foldl (fun n c ↦ n + c.utf8Size) 0 < 4 then .truncated else .malformed

/-- Reads the parts of a string up to its closing quote. -/
def readPieces : Reader (List Piece)
  | [] => .error .truncated
  | '"' :: rest => .ok ([], rest)
  | '\\' :: 'u' :: a :: b :: c :: d :: rest => Piece.before (Piece.ofHex? a b c d) (readPieces rest)
  | ['\\'] => .error .truncated
  | '\\' :: e :: rest =>
    if e = 'u' then .error (unitFault rest)
    else Piece.before ((shortEscape? e).map .char) (readPieces rest)
  | c :: rest =>
    if c.toNat < 0x20 then .error .malformed else Piece.before (some (.char c)) (readPieces rest)

/-- The character of two halves of a pair. -/
def surrogatePair (high low : Nat) : Char :=
  Char.ofNat (0x10000 + (high - 0xD800) * 0x400 + (low - 0xDC00))

/-- Joins the parts of a string. Two adjacent halves of a pair are one character; any other half
denotes no text. -/
def joinPieces : List Piece → Option (List Char)
  | [] => some []
  | .char c :: ps => (joinPieces ps).map (c :: ·)
  | .half h :: .half l :: ps =>
    if h < 0xDC00 ∧ 0xDC00 ≤ l then
      (joinPieces ps).map (surrogatePair h l :: ·)
    else none
  | .half _ :: _ => none

/-- Reads a string after its opening quote. -/
def readText : Reader (Option String) := fun s ↦ do
  let (ps, rest) ← readPieces s
  return ((joinPieces ps).map String.ofList, rest)

/-! ### Values -/

mutual

/-- Reads a value. Each step inwards or onwards spends one unit of `fuel`. -/
def readValue : Nat → Reader Value
  | 0, s => refuse s
  | fuel + 1, s =>
    match s with
    | 'n' :: rest => return (.null, ← readWord ['u', 'l', 'l'] rest)
    | 't' :: rest => return (.bool true, ← readWord ['r', 'u', 'e'] rest)
    | 'f' :: rest => return (.bool false, ← readWord ['a', 'l', 's', 'e'] rest)
    | '"' :: rest => (readText rest).map fun (s, rest) ↦ (.str s, rest)
    | '[' :: rest =>
      match skipGap rest with
      | ']' :: rest => .ok (.arr [], rest)
      | rest => (readItems fuel rest).map fun (vs, rest) ↦ (.arr vs, rest)
    | '\x7b' :: rest =>
      match skipGap rest with
      | '\x7d' :: rest => .ok (.obj [], rest)
      | rest => (readMembers fuel rest).map fun (ms, rest) ↦ (.obj ms, rest)
    | '-' :: rest => (readNumeral true rest).map fun (n, rest) ↦ (.num n, rest)
    | _ => (readNumeral false s).map fun (n, rest) ↦ (.num n, rest)

/-- Reads the items of an array up to its closing bracket. -/
def readItems : Nat → Reader (List Value)
  | 0, s => refuse s
  | fuel + 1, s => do
    let (v, rest) ← readValue fuel s
    match skipGap rest with
    | ']' :: rest => return ([v], rest)
    | ',' :: rest =>
      let (vs, rest) ← readItems fuel (skipGap rest)
      return (v :: vs, rest)
    | rest => refuse rest

/-- Reads the members of an object up to its closing brace. -/
def readMembers : Nat → Reader (List (Option String × Value))
  | 0, s => refuse s
  | fuel + 1, s => do
    let '"' :: rest := s | refuse s
    let (k, rest) ← readText rest
    let ':' :: rest := skipGap rest | refuse (skipGap rest)
    let (v, rest) ← readValue fuel (skipGap rest)
    match skipGap rest with
    | '\x7d' :: rest => return ([(k, v)], rest)
    | ',' :: rest =>
      let (ms, rest) ← readMembers fuel (skipGap rest)
      return ((k, v) :: ms, rest)
    | rest => refuse rest

end

/-- Reads a document: one value, with blanks around it and nothing else. -/
def parseChars (s : List Char) : Except Error Value := do
  let (v, rest) ← readValue (2 * s.length + 2) (skipGap s)
  if (skipGap rest).isEmpty then .ok v else .error .malformed

/-- Reads a document. -/
def parse (s : String) : Except Error Value :=
  parseChars s.toList

/-- What stands for bytes that are no text: a character that nothing escapes, which no document
has outside its strings, and a pair of halves in the wrong order. -/
def brokenText : List Char :=
  "!\\udc00\\udc00".toList

/-- Reads a document from bytes. -/
def parseBytes (bs : List UInt8) : Except Error Value :=
  parseChars (decodeUtf8 brokenText bs)

end AuditFeed.Json
