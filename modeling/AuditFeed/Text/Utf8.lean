/-!
# UTF-8

Text as bytes and bytes as text. Writing is one function on characters. Reading keeps going after
bytes that are no text: every **maximal ill-formed stretch** is replaced by a text of the reader's
choice, so one reader serves both the lossy use (the replacement character) and the strict ones.

## Which stretch is ill-formed

The reader follows the Unicode recommendation: a stretch ends where the next byte can no longer
continue a well-formed sequence. The bounds on the second byte (`secondBounds`) are what excludes
overlong forms, surrogates and numbers above `0x10FFFF`.
-/

namespace AuditFeed.Text

/-- The UTF-8 bytes of a character. -/
def utf8Char (c : Char) : List UInt8 :=
  let n := c.toNat
  if n < 0x80 then [n.toUInt8]
  else if n < 0x800 then [(0xC0 + n / 0x40).toUInt8, (0x80 + n % 0x40).toUInt8]
  else if n < 0x10000 then
    [(0xE0 + n / 0x1000).toUInt8, (0x80 + n / 0x40 % 0x40).toUInt8, (0x80 + n % 0x40).toUInt8]
  else
    [(0xF0 + n / 0x40000).toUInt8, (0x80 + n / 0x1000 % 0x40).toUInt8,
      (0x80 + n / 0x40 % 0x40).toUInt8, (0x80 + n % 0x40).toUInt8]

/-- The UTF-8 bytes of a text. -/
def utf8 (s : List Char) : List UInt8 :=
  s.flatMap utf8Char

/-- How many bytes follow a leading byte; `none` for a byte that leads nothing. -/
def continuationCount (lead : Nat) : Option Nat :=
  if lead < 0x80 then some 0
  else if lead < 0xC2 then none
  else if lead < 0xE0 then some 1
  else if lead < 0xF0 then some 2
  else if lead < 0xF5 then some 3
  else none

/-- The least and the greatest second byte after a leading byte. -/
def secondBounds (lead : Nat) : Nat × Nat :=
  if lead = 0xE0 then (0xA0, 0xBF)
  else if lead = 0xED then (0x80, 0x9F)
  else if lead = 0xF0 then (0x90, 0xBF)
  else if lead = 0xF4 then (0x80, 0x8F)
  else (0x80, 0xBF)

/-- The payload of a leading byte that announces `k` more bytes. -/
def leadPayload (lead k : Nat) : Nat :=
  match k with
  | 0 => lead
  | 1 => lead - 0xC0
  | 2 => lead - 0xE0
  | _ => lead - 0xF0

/-- Reads `k` continuation bytes, the first of them within `lo` and `hi`, onto the number `acc`.
Answers the character's number, or `none` where a byte does not continue the sequence, and in both
cases the bytes that are left. -/
def continueChar : Nat → Nat → Nat → Nat → List UInt8 → Option Nat × List UInt8
  | 0, acc, _, _, rest => (some acc, rest)
  | _ + 1, _, _, _, [] => (none, [])
  | k + 1, acc, lo, hi, b :: rest =>
    if lo ≤ b.toNat ∧ b.toNat ≤ hi then
      continueChar k (acc * 0x40 + (b.toNat - 0x80)) 0x80 0xBF rest
    else (none, b :: rest)

/-- The rest is never longer than what was read from. -/
theorem length_continueChar_le (k acc lo hi : Nat) (bs : List UInt8) :
    (continueChar k acc lo hi bs).2.length ≤ bs.length := by
  induction k generalizing acc lo hi bs with
  | zero => simp [continueChar]
  | succ k ih =>
    cases bs with
    | nil => simp [continueChar]
    | cons b rest =>
      simp only [continueChar]
      split
      · exact Nat.le_trans (ih ..) (by simp)
      · simp

/-- One character, or `none` for an ill-formed stretch, and the bytes after it. -/
def readChar (b : UInt8) (rest : List UInt8) : Option Char × List UInt8 :=
  match continuationCount b.toNat with
  | none => (none, rest)
  | some k =>
    let (lo, hi) := secondBounds b.toNat
    let (n, rest') := continueChar k (leadPayload b.toNat k) lo hi rest
    (n.map Char.ofNat, rest')

theorem length_readChar_le (b : UInt8) (rest : List UInt8) :
    (readChar b rest).2.length ≤ rest.length := by
  unfold readChar
  split
  · simp
  · exact length_continueChar_le ..

/-- Reads bytes as text, with `broken` in the place of each ill-formed stretch. -/
def decodeUtf8 (broken : List Char) : List UInt8 → List Char
  | [] => []
  | b :: rest =>
    match _h : readChar b rest with
    | (some c, rest') => c :: decodeUtf8 broken rest'
    | (none, rest') => broken ++ decodeUtf8 broken rest'
termination_by bs => bs.length
decreasing_by
  all_goals
    have hle : rest'.length ≤ rest.length := by simpa [_h] using length_readChar_le b rest
    simp only [List.length_cons]
    omega

/-- Reads bytes as text, with the replacement character for each ill-formed stretch. -/
def decodeUtf8Lossy (bs : List UInt8) : List Char :=
  decodeUtf8 ['\uFFFD'] bs

end AuditFeed.Text
