import AuditFeed.ServiceAccount.Der
import AuditFeed.Word

/-!
# RSA keys

A private key for signatures as a document of numbers: the modulus, the two exponents, the primes
and what makes their use faster. A key is taken only if the numbers fit together, so a document that
merely looks like a key is refused, and so is a key whose modulus is too short or too long to sign
with.

Lengths and numbers have to be written in their shortest form here.
-/

namespace AuditFeed.Rsa

/-- Reads a value of the given tag: its bytes and what follows them. -/
def value? (tag : UInt8) : List UInt8 → Option (List UInt8 × List UInt8)
  | t :: l :: rest => do
    guard (t = tag)
    let count := if l.toNat < 128 then 0 else l.toNat - 128
    let digits := rest.take count
    let length := if l.toNat < 128 then l.toNat else Der.number digits
    let isShortest := l.toNat < 128 ||
      (128 ≤ length && count ≤ 4 && digits.length == count && digits.head? != some 0)
    let rest := rest.drop count
    guard (isShortest && length ≤ rest.length)
    return (rest.take length, rest.drop length)
  | _ => none

/-- Reads a number that is not negative. -/
def natural? (bytes : List UInt8) : Option (Nat × List UInt8) := do
  let (body, rest) ← value? 2 bytes
  match body with
  | [] => none
  | [b] => if b.toNat < 128 then some (b.toNat, rest) else none
  | a :: b :: _ =>
    if a.toNat < 128 && (a != 0 || 128 ≤ b.toNat) then some (Der.number body, rest) else none

/-- A private key. -/
structure PrivateKey where
  /-- The product of the primes. -/
  modulus : Nat
  /-- The exponent that undoes a signature. -/
  publicExponent : Nat
  /-- The exponent that makes a signature. -/
  privateExponent : Nat
  /-- The first prime. -/
  prime1 : Nat
  /-- The second prime. -/
  prime2 : Nat
  /-- The private exponent for the first prime. -/
  exponent1 : Nat
  /-- The private exponent for the second prime. -/
  exponent2 : Nat
  /-- The inverse of the second prime for the first. -/
  coefficient : Nat

/-- Why a key is not taken. -/
inductive Rejection where
  /-- The document is none of a key. -/
  | malformed
  | tooSmall
  | tooLarge
deriving DecidableEq

/-- What a rejection says. -/
def Rejection.message : Rejection → String
  | malformed => "UnexpectedError"
  | tooSmall => "TooSmall"
  | tooLarge => "TooLarge"

namespace PrivateKey

/-- The key that a document writes; version 0 is that of keys with two primes. -/
def ofDer? (bytes : List UInt8) : Option PrivateKey := do
  let (body, _) ← value? 0x30 bytes
  let (version, rest) ← natural? body
  let (modulus, rest) ← natural? rest
  let (publicExponent, rest) ← natural? rest
  let (privateExponent, rest) ← natural? rest
  let (prime1, rest) ← natural? rest
  let (prime2, rest) ← natural? rest
  let (exponent1, rest) ← natural? rest
  let (exponent2, rest) ← natural? rest
  let (coefficient, rest) ← natural? rest
  guard (version = 0 && rest.isEmpty)
  return ⟨modulus, publicExponent, privateExponent, prime1, prime2, exponent1, exponent2,
    coefficient⟩

/-- Is `a` below `m` and its product with `b` one more than a multiple of `m`? -/
def isInverse (m a b : Nat) : Bool :=
  a < m && a * b % m == 1

/-- Do the numbers of a key fit together? -/
def isConsistent (k : PrivateKey) : Bool :=
  let e := k.publicExponent
  k.modulus % 2 == 1 && e % 2 == 1 && 3 ≤ e && e < 2 * Word.limit32 && k.privateExponent < k.modulus &&
    k.prime1 * k.prime2 == k.modulus &&
    k.privateExponent * e % (k.prime1 - 1) == 1 && k.privateExponent * e % (k.prime2 - 1) == 1 &&
    isInverse (k.prime1 - 1) k.exponent1 e && isInverse (k.prime2 - 1) k.exponent2 e &&
    isInverse k.prime1 k.coefficient k.prime2

/-- The number of bits of the modulus. -/
def size (k : PrivateKey) : Nat :=
  if k.modulus = 0 then 0 else k.modulus.log2 + 1

/-- The key to sign with that a document writes. -/
def read (bytes : List UInt8) : Except Rejection PrivateKey :=
  match (ofDer? bytes).filter isConsistent with
  | none => .error .malformed
  | some k =>
    if k.size < 2048 then .error .tooSmall
    else if 8192 < k.size then .error .tooLarge
    else .ok k

end PrivateKey

end AuditFeed.Rsa
