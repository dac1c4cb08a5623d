/-!
# Doubles

Magnitudes of IEEE 754 doubles as exact numbers `mantissa · 2 ^ exponent`, so that rounding and the
shortest decimal text are computed in integers and can be reasoned about.

## Rounding

`ofRatio?` rounds a quotient to the nearest double, a half to the even neighbour, and answers `none`
where that is infinite. The product and the quotient of two doubles are the rounded exact ones.

## The shortest text

A decimal reads back as a double exactly when it lies in the double's **rounding interval**, whose
ends belong to it when the mantissa is even. `shortest` tries one digit, then two, and so on; the
two neighbours of the exact value on that grid of decimals are the only candidates, and the nearer
one wins.
-/

namespace AuditFeed.Decimal

/-- The magnitude of a finite double. -/
structure Binary64 where
  /-- The mantissa, below `2 ^ 53`. -/
  mantissa : Nat
  /-- The binary exponent, at least −1074. -/
  exponent : Int
deriving DecidableEq

/-- The quotient rounded to the nearest integer, a half to the even one. -/
def divRound (num den : Nat) : Nat :=
  let q := num / den
  let r := num % den
  if 2 * r < den then q
  else if den < 2 * r then q + 1
  else q + q % 2

/-- The numerator and the denominator of `num / den · b ^ e`. -/
def scaleRatio (b num den : Nat) (e : Int) : Nat × Nat :=
  if 0 ≤ e then (num * Nat.pow b e.toNat, den) else (num, den * Nat.pow b e.natAbs)

namespace Binary64

/-- The least mantissa of a double with all its digits, `2 ^ 52`. -/
def leastNormal : Nat := 0x10000000000000

/-- Zero. -/
def zero : Binary64 := ⟨0, -1074⟩

/-- The double as a quotient. -/
def toRatio (x : Binary64) : Nat × Nat :=
  scaleRatio 2 x.mantissa 1 x.exponent

/-- The double nearest to `num / den`; `none` where that is infinite. -/
def ofRatio? (num den : Nat) : Option Binary64 :=
  if num = 0 then some zero
  else
    let guess : Int := (Nat.log2 num : Int) - Nat.log2 den - 52
    -- The guess is right or one too high.
    let (n, d) := scaleRatio 2 num den (-guess)
    let exponent := max (if n / d < leastNormal then guess - 1 else guess) (-1074)
    let (n, d) := scaleRatio 2 num den (-exponent)
    let m := divRound n d
    let (m, exponent) := if m = 2 * leastNormal then (leastNormal, exponent + 1) else (m, exponent)
    if 971 < exponent then none else some ⟨m, exponent⟩

/-- The rounded product. -/
def mul? (x y : Binary64) : Option Binary64 :=
  let (a, b) := x.toRatio
  let (c, d) := y.toRatio
  ofRatio? (a * c) (b * d)

/-- The rounded quotient. -/
def div? (x y : Binary64) : Option Binary64 :=
  let (a, b) := x.toRatio
  let (c, d) := y.toRatio
  ofRatio? (a * d) (b * c)

/-- The double nearest to a power of ten. -/
def powerOfTen? (k : Nat) : Option Binary64 :=
  ofRatio? (Nat.pow 10 k) 1

/-! ### The shortest decimal -/

/-- Are two quotients in order? -/
def ratioLe (a b : Nat × Nat) : Bool :=
  a.1 * b.2 ≤ b.1 * a.2

/-- The ends of the interval of numbers that round to the double. -/
def interval (x : Binary64) : (Nat × Nat) × (Nat × Nat) :=
  let below :=
    if x.mantissa = leastNormal ∧ -1074 < x.exponent then
      scaleRatio 2 (4 * x.mantissa - 1) 1 (x.exponent - 2)
    else scaleRatio 2 (2 * x.mantissa - 1) 1 (x.exponent - 1)
  (below, scaleRatio 2 (2 * x.mantissa + 1) 1 (x.exponent - 1))

/-- Does a number read back as the double? -/
def readsBack (x : Binary64) (a : Nat × Nat) : Bool :=
  let (low, high) := x.interval
  if x.mantissa % 2 = 0 then ratioLe low a && ratioLe a high
  else !ratioLe a low && !ratioLe high a

/-- The number `digits · 10 ^ exponent` as a quotient. -/
def decimalRatio (digits : Nat) (exponent : Int) : Nat × Nat :=
  scaleRatio 10 digits 1 exponent

/-- The decimal on the grid of step `10 ^ k` that is nearest to the double and reads back as it. -/
def nearestOnGrid (x : Binary64) (k : Int) : Option (Nat × Int) :=
  let (num, den) := x.toRatio
  let (n, d) := scaleRatio 10 num den (-k)
  let low := n / d
  let lowFits := low ≠ 0 ∧ x.readsBack (decimalRatio low k) = true
  let highFits := x.readsBack (decimalRatio (low + 1) k) = true
  if lowFits ∧ (¬ highFits ∨ 2 * (n % d) ≤ d) then some (low, k)
  else if highFits then some (low + 1, k)
  else none

/-- The exponent of the leading decimal digit, by a count of digits. -/
def decimalExponent (x : Binary64) : Int :=
  let (num, den) := x.toRatio
  let guess : Int := (Nat.toDigits 10 num).length - (Nat.toDigits 10 den).length
  -- The guess is right or one too high.
  let (n, d) := scaleRatio 10 num den (-guess)
  if n < d then guess - 1 else guess

/-- The shortest decimal that reads back as the double, as digits and an exponent. -/
def shortest (x : Binary64) : Nat × Int :=
  if x.mantissa = 0 then (0, 0)
  else
    let top := x.decimalExponent
    ((List.range 17).findSome? fun (i : Nat) ↦ x.nearestOnGrid (top - i)).getD (0, 0)

/-- The positional text of `digits · 10 ^ exponent`, without an exponent part. -/
def positional (digits : Nat) (exponent : Int) : List Char :=
  let ds := Nat.toDigits 10 digits
  if 0 ≤ exponent then
    if digits = 0 then ['0'] else ds ++ List.replicate exponent.toNat '0'
  else
    let places := exponent.natAbs
    let ds := List.replicate (places + 1 - ds.length) '0' ++ ds
    let whole := ds.take (ds.length - places)
    let fraction := (ds.drop (ds.length - places)).reverse.dropWhile (· == '0') |>.reverse
    if fraction.isEmpty then whole else whole ++ '.' :: fraction

/-- The shortest positional text of a double with the given sign. A negative zero keeps its
sign. -/
def text (negative : Bool) (x : Binary64) : List Char :=
  let (ds, k) := x.shortest
  (if negative then ['-'] else []) ++ positional ds k

end Binary64

end AuditFeed.Decimal
