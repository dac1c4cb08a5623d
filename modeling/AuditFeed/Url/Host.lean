import AuditFeed.Decimal.Digits
import AuditFeed.Text.Percent
import AuditFeed.Text.Scan
import AuditFeed.Url.Domain

/-!
# Hosts

Where a URL points: a domain name, an address of four bytes or one of eight pieces. A name whose
last part is a number is an address of four bytes, or it is refused. Schemes that are not for the
web take a host as it is.
-/

namespace AuditFeed.Url

/-- Why a text is no URL. -/
inductive Error where
  | noScheme
  | emptyHost
  | invalidDomain
  | invalidDomainCharacter
  | invalidPort
  | invalidIpv4
  | invalidIpv6
deriving DecidableEq

/-- What a failure says. -/
def Error.message : Error → String
  | noScheme => "relative URL without a base"
  | emptyHost => "empty host"
  | invalidDomain => "invalid international domain name"
  | invalidDomainCharacter => "invalid domain character"
  | invalidPort => "invalid port number"
  | invalidIpv4 => "invalid IPv4 address"
  | invalidIpv6 => "invalid IPv6 address"

/-- A host. -/
inductive Host where
  /-- A domain name; the empty one is no host. -/
  | domain (name : List Char)
  /-- An address of four bytes, as one number. -/
  | ipv4 (address : Nat)
  /-- An address of eight pieces of 16 bits. -/
  | ipv6 (pieces : List Nat)
deriving DecidableEq

namespace Host

/-! ### Writing -/

/-- The digits of a number in hexadecimal. -/
def hex (n : Nat) : List Char := Nat.toDigits 16 n

/-- The length of the run of zeros at the start. -/
def zeros (ps : List Nat) : Nat :=
  (ps.takeWhile (· == 0)).length

/-- Where the first of the longest runs of zeros starts, and its length. -/
def longestZeros : Nat → List Nat → Nat × Nat
  | _, [] => (0, 0)
  | i, p :: ps =>
    let here := zeros (p :: ps)
    let later := longestZeros (i + 1) ps
    if later.2 ≤ here then (i, here) else later

/-- Numbers in hexadecimal with colons between them. -/
def colonHex (ps : List Nat) : List Char :=
  List.intercalate [':'] (ps.map hex)

/-- The text of an address of eight pieces: the longest run of two or more zeros is left out. -/
def ipv6Text (pieces : List Nat) : List Char :=
  let (start, length) := longestZeros 0 pieces
  if length < 2 then colonHex pieces
  else colonHex (pieces.take start) ++ [':', ':'] ++ colonHex (pieces.drop (start + length))

/-- The text of a host. -/
def text : Host → List Char
  | domain name => name
  | ipv4 n =>
    List.intercalate ['.'] <|
      [n / 16777216, n / 65536 % 256, n / 256 % 256, n % 256].map Decimal.digits
  | ipv6 pieces => '[' :: ipv6Text pieces ++ [']']

/-! ### Addresses of four bytes -/

/-- The number that digits of a base write. -/
def numberIn (base : Nat) (ds : List Char) : Option Nat :=
  ds.foldlM (fun n c ↦ do
    let d ← Text.hexValue? c
    guard (d < base)
    return n * base + d) 0

/-- The number that a part of an address writes: hexadecimal behind `0x`, octal behind a zero. -/
def part? (s : List Char) : Option Nat :=
  match s with
  | [] => none
  | '0' :: 'x' :: ds | '0' :: 'X' :: ds => numberIn 16 ds
  | '0' :: d :: ds => numberIn 8 (d :: ds)
  | ds => numberIn 10 ds

/-- The parts of a name between its dots, without an empty last one. -/
def dotParts (s : List Char) : List (List Char) :=
  let parts := s.splitOn '.'
  if 1 < parts.length ∧ parts.getLast? = some [] then parts.dropLast else parts

/-- Is the last part of a name a number? -/
def endsInNumber (s : List Char) : Bool :=
  match (dotParts s).getLast? with
  | some [] | none => false
  | some last => last.all Text.isDigit || (part? last).isSome

/-- The address that a name writes. The last part stands for all bytes that are left. -/
def ipv4? (s : List Char) : Option Nat := do
  let parts ← (dotParts s).mapM part?
  let last ← parts.getLast?
  let firsts := parts.dropLast
  guard (parts.length ≤ 4 && firsts.all (· < 256) && last < Nat.pow 256 (5 - parts.length))
  return firsts.foldl (fun n b ↦ n * 256 + b) 0 * Nat.pow 256 (5 - parts.length) + last

/-! ### Addresses of eight pieces -/

/-- The piece that one to four hexadecimal digits write. -/
def piece? (s : List Char) : Option Nat :=
  if s.isEmpty || 4 < s.length then none else numberIn 16 s

/-- The two pieces that an address of four bytes stands for at the end. -/
def tail? (s : List Char) : Option (List Nat) := do
  let parts ← (s.splitOn '.').mapM fun p ↦
    if 1 < p.length ∧ p.head? = some '0' then none
    else (Text.number? p).filter (· < 256)
  match parts with
  | [a, b, c, d] => some [a * 256 + b, c * 256 + d]
  | _ => none

/-- The pieces of a part of an address without a gap; the last of them may be an address of four
bytes where `last` says that nothing follows. -/
def pieces? (last : Bool) (s : List Char) : Option (List Nat) :=
  if s.isEmpty then some []
  else
    let parts := s.splitOn ':'
    match parts.getLast? with
    | some p =>
      if last && p.contains '.' then do
        return (← parts.dropLast.mapM piece?) ++ (← tail? p)
      else parts.mapM piece?
    | none => none

/-- The parts before and after the first double colon. -/
def splitGap : List Char → Option (List Char × List Char)
  | ':' :: ':' :: rest => some ([], rest)
  | c :: rest => (splitGap rest).map fun (before, after) ↦ (c :: before, after)
  | [] => none

/-- The eight pieces that an address writes. -/
def ipv6? (s : List Char) : Option (List Nat) := do
  match splitGap s with
  | none => (pieces? true s).filter (·.length = 8)
  | some (before, after) =>
    let left ← pieces? false before
    let right ← pieces? true after
    let count := left.length + right.length
    if count < 8 then some (left ++ List.replicate (8 - count) 0 ++ right) else none

/-! ### Parsing -/

/-- The address between brackets. -/
def ofBrackets (s : List Char) : Except Error Host :=
  match s.getLast?, ipv6? s.dropLast with
  | some ']', some pieces => .ok (.ipv6 pieces)
  | _, _ => .error .invalidIpv6

/-- The host that a text of a web address names. -/
def parse (s : List Char) : Except Error Host :=
  match s with
  | '[' :: rest => ofBrackets rest
  | s => do
    let some name := Domain.toAscii (Text.percentDecode s) | throw .invalidDomain
    if name.isEmpty then throw .emptyHost
    if endsInNumber name then
      match ipv4? name with
      | some n => return .ipv4 n
      | none => throw .invalidIpv4
    return .domain name

/-- The characters that cannot stand in a host of any scheme. -/
def forbiddenChars : List Char := "\x00\t\n\r #/:<>?@[\\]^|".toList

/-- The host that a text of any other address names: a host like those of the web in brackets only,
and else the text itself. -/
def parsePlain (s : List Char) : Except Error Host :=
  match s with
  | '[' :: rest => ofBrackets rest
  | s =>
    if s.any (forbiddenChars.contains ·) then .error .invalidDomainCharacter
    else .ok (.domain (Text.percentEncode (fun c ↦ 0x20 ≤ c.toNat && c.toNat < 0x7F) s))

end Host

end AuditFeed.Url
