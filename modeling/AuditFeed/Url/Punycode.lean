/-!
# Punycode

How a label of a domain name is written in ASCII: its ASCII characters first, then for all others,
in the order of their numbers, how far to go from one to the next. Distances are numbers of base 36
with thresholds that follow the distances written so far. RFC 3492 calls this a bootstring.

Each loop has a measure: the distance left to write, the characters left to place or to read.
-/

namespace AuditFeed.Url.Punycode

/-- The character of a digit: letters, then the ten digits. -/
def digit (d : Nat) : Char :=
  if d < 26 then Char.ofNat (97 + d) else Char.ofNat (48 + (d - 26))

/-- The threshold of the digit that stands at `k`. -/
def threshold (k bias : Nat) : Nat :=
  if k ≤ bias then 1 else min (k - bias) 26

theorem one_le_threshold (k bias : Nat) : 1 ≤ threshold k bias := by
  unfold threshold
  split <;> omega

/-- Brings a distance down to where the bias is read off; counts the steps in units of 36. -/
def settle (delta k : Nat) : Nat × Nat :=
  if 455 < delta then settle (delta / 35) (k + 36) else (delta, k)
termination_by delta
decreasing_by exact Nat.div_lt_self (by omega) (by omega)

/-- The bias after a distance, with `count` characters placed. -/
def adapt (delta count : Nat) (first : Bool) : Nat :=
  let delta := if first then delta / 700 else delta / 2
  let (delta, k) := settle (delta + delta / count) 0
  k + 36 * delta / (delta + 38)

/-- The digits of a distance, the first of them at `k`. -/
def digits (bias k q : Nat) : List Char :=
  let t := threshold k bias
  if q < t then [digit q]
  else digit (t + (q - t) % (36 - t)) :: digits bias (k + 36) ((q - t) / (36 - t))
termination_by q
decreasing_by
  have := one_le_threshold k bias
  have := Nat.div_le_self (q - threshold k bias) (36 - threshold k bias)
  omega

/-- How far the writing has come. -/
structure State where
  /-- What is written. -/
  out : List Char
  /-- The distance since the last character that was placed. -/
  delta : Nat
  /-- The current bias. -/
  bias : Nat
  /-- How many characters are placed. -/
  placed : Nat

/-- Goes over one character of the label while those with the number `n` are placed. -/
def visit (basic n : Nat) (s : State) (c : Char) : State :=
  if c.toNat < n then { s with delta := s.delta + 1 }
  else if c.toNat = n then
    ⟨s.out ++ digits s.bias 36 s.delta, 0, adapt s.delta (s.placed + 1) (s.placed == basic),
      s.placed + 1⟩
  else s

/-- Places the characters with the given numbers, in increasing order, from the number `n` on. -/
def place (label : List Char) (basic : Nat) : List Nat → Nat → State → State
  | [], _, s => s
  | m :: ms, n, s =>
    let s := label.foldl (visit basic m) { s with delta := s.delta + (m - n) * (s.placed + 1) }
    place label basic ms (m + 1) { s with delta := s.delta + 1 }

/-- The ASCII form of a label. -/
def encode (label : List Char) : List Char :=
  let ascii := label.filter (·.toNat < 128)
  let others := ((label.filter (128 ≤ ·.toNat)).map Char.toNat).mergeSort.eraseDups
  let start := if ascii.isEmpty then [] else ascii ++ ['-']
  (place label ascii.length others 128 ⟨start, 0, 72, ascii.length⟩).out

/-! ### Reading -/

/-- The value of a digit. -/
def digitValue? (c : Char) : Option Nat :=
  if c.isAlpha then some (c.toLower.toNat - 97)
  else if c.isDigit then some (c.toNat - 48 + 26)
  else none

/-- Reads a distance, its first digit at `k` and of this weight, on top of what was read of it. -/
def readDistance (bias k weight sum : Nat) :
    (s : List Char) → Option (Nat × { rest : List Char // rest.length < s.length })
  | [] => none
  | c :: rest => do
    let d ← digitValue? c
    let sum := sum + d * weight
    let t := threshold k bias
    if d < t then return (sum, ⟨rest, Nat.lt_succ_self _⟩)
    let (sum, ⟨behind, h⟩) ← readDistance bias (k + 36) (weight * (36 - t)) sum rest
    return (sum, ⟨behind, Nat.lt_succ_of_lt h⟩)

/-- How far the reading has come. -/
structure Reading where
  /-- The characters so far. -/
  label : List Char
  /-- The number of the last character that was put in. -/
  number : Nat
  /-- Where the next one would go. -/
  place : Nat
  /-- The current bias. -/
  bias : Nat

/-- Puts in the character at a distance. -/
def Reading.insert (r : Reading) (distance : Nat) : Option Reading :=
  let count := r.label.length + 1
  let place := r.place + distance
  let number := r.number + place / count
  if number.isValidChar then
    some {
      label := r.label.insertIdx (place % count) (Char.ofNat number)
      number
      place := place % count + 1
      bias := adapt distance count (r.place == 0) }
  else none

/-- Reads distances and puts in their characters. -/
def readAll (r : Reading) : List Char → Option (List Char)
  | [] => some r.label
  | c :: s => do
    let (distance, ⟨rest, _⟩) ← readDistance r.bias 36 1 0 (c :: s)
    readAll (← r.insert distance) rest
termination_by s => s.length
decreasing_by assumption

/-- The label of an ASCII form. -/
def decode (s : List Char) : Option (List Char) :=
  let behind := (s.reverse.takeWhile (· != '-')).reverse
  let ascii := s.take (s.length - behind.length - 1)
  if ascii.isEmpty then readAll ⟨[], 128, 0, 72⟩ s else readAll ⟨ascii, 128, 0, 72⟩ behind

end AuditFeed.Url.Punycode
