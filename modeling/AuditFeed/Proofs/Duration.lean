import AuditFeed.Overflow
import AuditFeed.Duration

/-!
# Durations as numbers and as words

A duration is known by its nanoseconds (`Duration.eq_of_nanos`). A sum or a multiple is the exact
one, cut to the longest duration where it is longer than that (`Duration.nanos_add`,
`Duration.nanos_mul`). So bounds on durations are bounds on natural numbers, with a minimum around
them.

## Words

A machine holds a duration in two words, the seconds in 64 bits and the nanoseconds of the last
second in 32, and computes with these. The functions whose names end in `Words` do so step by step:
what has to fit into a word stops the computation if it does not (`Word.hold`), and only the seconds
of the result may be too many, which cuts it.

Nothing ever stops, and the result is the same. There is one equation for each function, with the
number that it multiplies by bounded where it has to be; a computation made of them is followed by
rewriting with these and `Word.hold_bind`.

## Main statements

* `Duration.nanos_add`, `Duration.nanos_mul`: the arithmetic of durations, cut.
* `Duration.mulWords_eq`, `Duration.addWords_eq`, `Duration.millisWords_eq`,
  `Duration.ofMillisWords_eq`: the words hold it.
-/

namespace AuditFeed

namespace Duration

instance : LE Duration where
  le a b := a.nanos ≤ b.nanos

/-- Durations are compared by their nanoseconds. -/
theorem le_def {a b : Duration} : a ≤ b ↔ a.nanos ≤ b.nanos := Iff.rfl

instance (a b : Duration) : Decidable (a ≤ b) :=
  inferInstanceAs (Decidable (a.nanos ≤ b.nanos))

protected theorem le_refl (a : Duration) : a ≤ a :=
  Nat.le_refl a.nanos

/-- The nanoseconds of the longest duration. -/
theorem nanos_longest : longest.nanos = 18446744073709551615999999999 := by decide

/-- A duration is known by its nanoseconds. -/
theorem eq_of_nanos {a b : Duration} (h : a.nanos = b.nanos) : a = b := by
  cases a
  cases b
  cases h
  rfl

/-- Nanoseconds beyond the longest duration are cut. -/
theorem nanos_ofNanos (n : Nat) : (ofNanos n).nanos = min n longest.nanos := by
  rw [ofNanos, nanos_longest]
  split
  · rename_i h
    rw [Word.limit64] at h
    show n = _
    omega
  · rename_i h
    rw [Word.limit64] at h
    rw [nanos_longest, Nat.min_eq_right (by omega)]

theorem nanos_ofNanos_of_le {n : Nat} (h : n ≤ longest.nanos) : (ofNanos n).nanos = n := by
  rw [nanos_ofNanos, Nat.min_eq_left h]

/-- A sum, cut to the longest duration. -/
theorem nanos_add (a b : Duration) : (a.add b).nanos = min (a.nanos + b.nanos) longest.nanos :=
  nanos_ofNanos _

/-- A multiple, cut to the longest duration. -/
theorem nanos_mul (a : Duration) (k : Nat) : (a.mul k).nanos = min (a.nanos * k) longest.nanos :=
  nanos_ofNanos _

/-! ### In words -/

/-- The nanoseconds of the last second of a duration. -/
def subsecond (d : Duration) : Nat := d.nanos % 1000000000

end Duration

/-- A number, if a word of so many values holds it. -/
def Word.hold (limit n : Nat) : Except Overflow Nat :=
  if n < limit then .ok n else .error .time

/-- Where the number fits, the computation goes on with it. -/
theorem Word.hold_bind {α : Type} {limit n : Nat} (h : n < limit) (f : Nat → Except Overflow α) :
    hold limit n >>= f = f n := by
  rw [hold, if_pos h]
  rfl

namespace Duration

/-- The duration in two words, or the longest one where the word of the seconds does not hold
them. -/
def ofWords (seconds nanos : Nat) : Duration :=
  if seconds < Word.limit64 then ofNanos (seconds * 1000000000 + nanos) else longest

/-- A multiple, word by word. -/
def mulWords (a : Duration) (k : Nat) : Except Overflow Duration := do
  let nanos ← Word.hold Word.limit64 (a.subsecond * k)
  let left ← Word.hold Word.limit32 (nanos % 1000000000)
  return ofWords (a.seconds * k + nanos / 1000000000) left

/-- A sum, word by word. -/
def addWords (a b : Duration) : Except Overflow Duration := do
  let nanos ← Word.hold Word.limit32 (a.subsecond + b.subsecond)
  if 1000000000 ≤ nanos then return ofWords (a.seconds + b.seconds + 1) (nanos - 1000000000)
  else return ofWords (a.seconds + b.seconds) nanos

/-- The whole milliseconds, word by word; 128 bits hold them. -/
def millisWords (d : Duration) : Except Overflow Nat :=
  Word.hold (Word.limit64 * Word.limit64) (d.seconds * 1000 + d.subsecond / 1000000)

/-- A duration of so many milliseconds, word by word. -/
def ofMillisWords (n : Nat) : Except Overflow Duration := do
  let nanos ← Word.hold Word.limit32 (n % 1000 * 1000000)
  return ofWords (n / 1000) nanos

theorem ofWords_eq {seconds nanos : Nat} (h : nanos < 1000000000) :
    ofWords seconds nanos = ofNanos (seconds * 1000000000 + nanos) := by
  rw [ofWords]
  split
  · rfl
  · rename_i hmany
    rw [ofNanos, dif_neg]
    rw [Word.limit64] at *
    omega

/-- Multiplying with a number of 32 bits never stops. -/
theorem mulWords_eq (a : Duration) {k : Nat} (hk : k < Word.limit32) :
    a.mulWords k = pure (a.mul k) := by
  have hpart : a.subsecond < 1000000000 := Nat.mod_lt _ (by decide)
  have hproduct : a.subsecond * k < Word.limit64 :=
    Nat.lt_of_le_of_lt (Nat.mul_le_mul (Nat.le_of_lt hpart) (Nat.le_of_lt hk)) (by decide)
  have hleft : a.subsecond * k % 1000000000 < 1000000000 := Nat.mod_lt _ (by decide)
  -- The two words hold the whole product: what the last second has too many is carried.
  have hnanos : (a.seconds * k + a.subsecond * k / 1000000000) * 1000000000 +
      a.subsecond * k % 1000000000 = a.nanos * k := by
    have hwhole : a.nanos = a.seconds * 1000000000 + a.subsecond :=
      (Nat.div_add_mod' a.nanos 1000000000).symm
    have hmul : a.nanos * k = a.seconds * k * 1000000000 + a.subsecond * k := by
      rw [hwhole, Nat.add_mul, Nat.mul_right_comm]
    omega
  rw [mulWords, Word.hold_bind hproduct, Word.hold_bind (Nat.lt_trans hleft (by decide)),
    ofWords_eq hleft, hnanos]
  rfl

/-- Adding never stops. -/
theorem addWords_eq (a b : Duration) : a.addWords b = pure (a.add b) := by
  have ha : a.subsecond < 1000000000 := Nat.mod_lt _ (by decide)
  have hb : b.subsecond < 1000000000 := Nat.mod_lt _ (by decide)
  have hnanos : a.nanos + b.nanos =
      (a.seconds + b.seconds) * 1000000000 + (a.subsecond + b.subsecond) := by
    rw [seconds, seconds, subsecond, subsecond]
    omega
  rw [addWords, Word.hold_bind (Nat.lt_trans (Nat.add_lt_add ha hb) (by decide)), add, hnanos]
  split
  · rename_i hcarry
    rw [ofWords_eq (by omega)]
    exact congrArg (pure ∘ ofNanos) (by omega)
  · rename_i hcarry
    rw [ofWords_eq (Nat.not_le.1 hcarry)]

/-- The milliseconds of a duration can always be counted. -/
theorem millisWords_eq (d : Duration) : d.millisWords = pure d.millis := by
  have hlong := d.nanos_lt
  have hmillis : d.seconds * 1000 + d.subsecond / 1000000 = d.millis := by
    rw [seconds, subsecond, millis]
    omega
  have hwide : d.millis < Word.limit64 * Word.limit64 := by
    rw [millis]
    rw [Word.limit64] at *
    omega
  rw [millisWords, hmillis, Word.hold, if_pos hwide]
  rfl

/-- Milliseconds of any number make a duration. -/
theorem ofMillisWords_eq (n : Nat) : ofMillisWords n = pure (ofMillis n) := by
  have hnanos : n % 1000 * 1000000 < 1000000000 := by omega
  have hsum : n / 1000 * 1000000000 + n % 1000 * 1000000 = n * 1000000 := by omega
  rw [ofMillisWords, Word.hold_bind (Nat.lt_trans hnanos (by decide)), ofWords_eq hnanos, hsum]
  rfl

end Duration

end AuditFeed
