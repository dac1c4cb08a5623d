import AuditFeed.Instant.Calendar
import AuditFeed.Text.Scan

/-!
# DER

Binary documents of tagged values, as far as it takes to tell what a key is for: which algorithm it
names, and whether it holds a string of bytes or bits that can be the key itself. Sequences are read
through; everything else is a leaf.

A document is refused where a value claims more bytes than there are, where a sequence or a set
holds nothing, and where the bytes of a value are none of its kind. Values of classes other than the
universal one have no kind.
-/

namespace AuditFeed.Der

/-- A tagged value. -/
inductive Block where
  /-- Values in order. -/
  | sequence (items : List Block)
  /-- The name of an algorithm, by its numbers. -/
  | identifier (arcs : List Nat)
  /-- A string of bytes or of bits. -/
  | data (bytes : List UInt8)
  /-- Any other value. -/
  | other

/-- The number that bytes write, the greatest first. -/
def number (bs : List UInt8) : Nat :=
  bs.foldl (fun n b ↦ n * 256 + b.toNat) 0

/-- Reads a length: one byte, or the number of the bytes that write it. -/
def length? : List UInt8 → Option (Nat × List UInt8)
  | [] => none
  | b :: rest =>
    if b.toNat < 128 then some (b.toNat, rest)
    else
      let count := b.toNat - 128
      if count ≤ rest.length ∧ count ≤ 8 then some (number (rest.take count), rest.drop count)
      else none

/-- Reads a number of base 128, whose last digit alone is below 128. -/
def septets? (n : Nat) : List UInt8 → Option (Nat × List UInt8)
  | [] => none
  | b :: rest =>
    if b.toNat < 128 then some (n * 128 + b.toNat, rest)
    else septets? (n * 128 + (b.toNat - 128)) rest

/-- The class and the tag of a value. -/
structure Tag where
  /-- Does the tag belong to the class that is the same everywhere? -/
  isUniversal : Bool
  /-- The tag in its class. -/
  number : Nat

/-- Reads a tag, which takes more than one byte if the first has no room for it. -/
def tag? : List UInt8 → Option (Tag × List UInt8)
  | [] => none
  | lead :: rest =>
    let isUniversal := lead.toNat < 64
    if lead.toNat % 32 = 31 then
      (septets? 0 rest).map fun (n, rest) ↦ (⟨isUniversal, n⟩, rest)
    else some (⟨isUniversal, lead.toNat % 32⟩, rest)

/-! ### Leaves -/

/-- The numbers of base 128 up to the end, in at most `fuel` steps. -/
def arcs? : Nat → List UInt8 → Option (List Nat)
  | _, [] => some []
  | 0, _ :: _ => none
  | fuel + 1, bs => do
    let (n, rest) ← septets? 0 bs
    return n :: (← arcs? fuel rest)

/-- The numbers of an identifier. The first two share a byte. -/
def identifier? : List UInt8 → Option (List Nat)
  | [] => none
  | b :: rest => do
    let first := min (b.toNat / 40) 2
    return first :: (b.toNat - first * 40) :: (← arcs? rest.length rest)

/-- The bits that bytes hold behind the number of those at the end that do not count. -/
def bits? : List UInt8 → Option (List UInt8)
  | [] => some []
  | unused :: bytes => if unused.toNat ≤ bytes.length * 8 then some bytes else none

/-- Do bytes write a text in UTF-8? -/
def isUtf8 (bytes : List UInt8) : Bool :=
  (String.fromUTF8? ⟨bytes.toArray⟩).isSome

/-- The characters that a printable text may hold beside letters and digits. -/
def printableSigns : List Char := " '()+,-./:=?".toList

/-- The characters of the same numbers as bytes. -/
def latin (bytes : List UInt8) : List Char :=
  bytes.map fun b ↦ Char.ofNat b.toNat

/-- Do fourteen digits write a day and a time of day? -/
def isTime (digits : List Char) : Bool :=
  let part := fun start length ↦ Text.digitsValue 0 ((digits.drop start).take length)
  digits.length == 14 && digits.all Text.isDigit &&
    Calendar.Date.isValid ⟨part 0 4, part 4 2, part 6 2⟩ &&
    part 8 2 < 24 && part 10 2 < 60 && part 12 2 < 60

/-- Is this a time whose year has two digits? -/
def isShortTime (s : List Char) : Bool :=
  let century := if 50 ≤ Text.digitsValue 0 (s.take 2) then ['1', '9'] else ['2', '0']
  s.length == 13 && s.getLast? == some 'Z' && isTime (century ++ s.dropLast)

/-- Is this a time whose year has four digits? It may have a fraction of a second. -/
def isLongTime (s : List Char) : Bool :=
  isTime (s.take 14) &&
    match s.drop 14 with
    | '.' :: d :: rest => Text.isDigit d && rest.dropWhile Text.isDigit == ['Z']
    | rest => rest.dropWhile Text.isDigit == ['Z']

/-- The leaf that bytes are with a tag of the universal class. -/
def leaf? (tag : Nat) (body : List UInt8) : Option Block :=
  let other := fun (isGood : Bool) ↦ if isGood then some Block.other else none
  match tag with
  | 1 => other (body.length == 1)
  | 3 => (bits? body).map .data
  | 4 => some (.data body)
  | 6 => (identifier? body).map .identifier
  | 12 | 20 | 28 | 30 => other (isUtf8 body)
  | 19 => other ((latin body).all fun c ↦ c.isAlphanum || printableSigns.contains c)
  | 23 => other (isShortTime (latin body))
  | 24 => other (isLongTime (latin body))
  | _ => some .other

/-! ### Documents -/

/-- Reads values up to the end, at least one, in at most `fuel` steps inwards and onwards. -/
def blocks : Nat → List UInt8 → Option (List Block)
  | 0, _ => none
  | fuel + 1, bytes => do
    let (tag, rest) ← tag? bytes
    let (length, rest) ← length? rest
    if rest.length < length then none
    else
      let body := rest.take length
      let block ← match tag with
        | ⟨true, 16⟩ => (blocks fuel body).map .sequence
        | ⟨true, 17⟩ => (blocks fuel body).map fun _ ↦ .other
        | ⟨true, n⟩ => leaf? n body
        | ⟨false, _⟩ => some .other
      match rest.drop length with
      | [] => return [block]
      | rest => return block :: (← blocks fuel rest)

/-- The values of a document. -/
def parse (bytes : List UInt8) : Option (List Block) :=
  blocks (bytes.length + 1) bytes

mutual

/-- The identifiers of a value, in order. -/
def Block.identifiers : Block → List (List Nat)
  | .sequence items => identifiersOf items
  | .identifier arcs => [arcs]
  | _ => []

/-- The identifiers of values, in order. -/
def identifiersOf : List Block → List (List Nat)
  | [] => []
  | b :: bs => b.identifiers ++ identifiersOf bs

end

mutual

/-- The first string of bytes or of bits in a value. -/
def Block.data? : Block → Option (List UInt8)
  | .sequence items => dataOf items
  | .data bytes => some bytes
  | _ => none

/-- The first string of bytes or of bits in values. -/
def dataOf : List Block → Option (List UInt8)
  | [] => none
  | b :: bs => b.data? <|> dataOf bs

end

end AuditFeed.Der
