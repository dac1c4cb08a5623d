/-!
# Base64

The standard alphabet with required padding and no stray bits, so that every byte sequence has
exactly one written form and reading accepts only that.

A text is read as its bytes. A failure names the first byte at fault and its position.
-/

namespace AuditFeed.Base64

/-- The 64 symbols in order. -/
def alphabet : List Char :=
  "ABCDEFGHIJKLMNOPQRSTUVWXYZabcdefghijklmnopqrstuvwxyz0123456789+/".toList

/-- The padding symbol. -/
def pad : Char := '='

/-- The symbol of a number below 64. -/
def symbol (n : Nat) : Char :=
  alphabet.getD n pad

/-- The number of a symbol. -/
def value? (b : UInt8) : Option Nat :=
  alphabet.findIdx? fun c ↦ c.toNat == b.toNat

/-- Is this byte the padding symbol? -/
def isPad (b : UInt8) : Bool :=
  b.toNat == pad.toNat

/-! ### Writing -/

/-- The written form of a byte sequence. -/
def encode : List UInt8 → List Char
  | [] => []
  | [a] =>
    let n := a.toNat * 16
    [symbol (n / 64), symbol (n % 64), pad, pad]
  | [a, b] =>
    let n := (a.toNat * 256 + b.toNat) * 4
    [symbol (n / 4096), symbol (n / 64 % 64), symbol (n % 64), pad]
  | a :: b :: c :: rest =>
    let n := (a.toNat * 256 + b.toNat) * 256 + c.toNat
    symbol (n / 262144) :: symbol (n / 4096 % 64) :: symbol (n / 64 % 64) :: symbol (n % 64) ::
      encode rest

/-! ### Reading -/

/-- Why a text is no written form. -/
inductive Error where
  /-- A byte that is no symbol, or a padding symbol out of place. -/
  | invalidSymbol (byte offset : Nat)
  /-- A last group of one symbol. -/
  | invalidLength (length : Nat)
  /-- A last symbol with bits that belong to no byte. -/
  | invalidLastSymbol (byte offset : Nat)
  /-- Padding that does not fill the last group. -/
  | invalidPadding
deriving DecidableEq

/-- The text of a failure. -/
def Error.message : Error → String
  | .invalidSymbol byte offset => s!"Invalid symbol {byte}, offset {offset}."
  | .invalidLength length => s!"Invalid input length: {length}"
  | .invalidLastSymbol byte offset => s!"Invalid last symbol {byte}, offset {offset}."
  | .invalidPadding => "Invalid padding"

/-- The number of a symbol at an offset. -/
def need (b : UInt8) (offset : Nat) : Except Error Nat :=
  match value? b with
  | some n => .ok n
  | none => .error (.invalidSymbol b.toNat offset)

/-- The symbols of the last group in front of its padding, and how much padding there is. Padding
may only follow two symbols or more, and only padding may follow it. -/
def readLast (start : Nat) : Nat → List (Nat × UInt8) → Nat → List UInt8 →
    Except Error (List (Nat × UInt8) × Nat)
  | _, symbols, padding, [] => .ok (symbols, padding)
  | i, symbols, padding, b :: rest =>
    if isPad b then
      if i < 2 then .error (.invalidSymbol b.toNat (start + i))
      else readLast start (i + 1) symbols (padding + 1) rest
    else if 0 < padding then .error (.invalidSymbol pad.toNat (start + symbols.length))
    else do
      let n ← need b (start + i)
      readLast start (i + 1) (symbols ++ [(n, b)]) 0 rest

/-- Reads the last group, of at most four bytes. -/
def decodeLast (start : Nat) (group : List UInt8) : Except Error (List UInt8) := do
  let (symbols, padding) ← readLast start 0 [] 0 group
  if symbols.length < 2 then throw (.invalidLength (start + symbols.length))
  if (symbols.length + padding) % 4 ≠ 0 then throw .invalidPadding
  match symbols with
  | [(a, _), (b, s)] =>
    let n := a * 64 + b
    if n % 16 ≠ 0 then throw (.invalidLastSymbol s.toNat (start + 1))
    return [(n / 16).toUInt8]
  | [(a, _), (b, _), (c, s)] =>
    let n := (a * 64 + b) * 64 + c
    if n % 4 ≠ 0 then throw (.invalidLastSymbol s.toNat (start + 2))
    return [(n / 1024).toUInt8, (n / 4 % 256).toUInt8]
  | [(a, _), (b, _), (c, _), (d, _)] =>
    let n := ((a * 64 + b) * 64 + c) * 64 + d
    return [(n / 65536).toUInt8, (n / 256 % 256).toUInt8, (n % 256).toUInt8]
  | _ => return []

/-- Reads groups of four symbols; the last group, which may be padded, is the one that leaves
nothing. -/
def decodeGroups (start : Nat) : List UInt8 → Except Error (List UInt8)
  | a :: b :: c :: d :: e :: rest => do
    let n := (((← need a start) * 64 + (← need b (start + 1))) * 64 + (← need c (start + 2))) * 64 +
      (← need d (start + 3))
    let bytes ← decodeGroups (start + 4) (e :: rest)
    return (n / 65536).toUInt8 :: (n / 256 % 256).toUInt8 :: (n % 256).toUInt8 :: bytes
  | group => decodeLast start group

/-- The byte sequence that a text writes. A stray last byte, such as a line break, is reported
before all else. -/
def decode (text : List UInt8) : Except Error (List UInt8) :=
  match text with
  | [] => .ok []
  | _ =>
    match text.getLast? with
    | some last =>
      if text.length % 4 = 1 ∧ ¬ isPad last ∧ value? last = none then
        .error (.invalidSymbol last.toNat (text.length - 1))
      else decodeGroups 0 text
    | none => .ok []

end AuditFeed.Base64
