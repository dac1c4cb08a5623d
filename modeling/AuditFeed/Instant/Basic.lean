/-!
# Instants

A point in time, in whole seconds since 1970-01-01T00:00:00Z and nanoseconds.

## Leap seconds

A leap second has no number of its own in this count. It is held as the second before it with
`10⁹` or more nanoseconds, so an instant sorts between its neighbours and prints as second 60. Only
the last second of a minute can be followed by one, which the type records.

## The range

Instants reach from the first second of the year −262143 to the last of 262142. Arithmetic that
leaves the range answers `none`.
-/

namespace AuditFeed

/-- A point in time. -/
structure Instant where
  /-- Whole seconds since the epoch; a leap second counts as the second before it. -/
  seconds : Int
  /-- Nanoseconds into the second, `10⁹` or more in a leap second. -/
  nanos : Nat
  /-- The instant is within the supported years. -/
  inRange : -8334601228800 ≤ seconds ∧ seconds ≤ 8210266876799
  /-- No second is longer than two. -/
  nanos_lt : nanos < 2000000000
  /-- A leap second follows the last second of a minute. -/
  leap : 1000000000 ≤ nanos → seconds % 60 = 59
deriving DecidableEq

namespace Instant

/-- Nanoseconds in a second. -/
def nanosPerSecond : Nat := 1000000000

/-- The start of the year 1970. -/
def epoch : Instant :=
  ⟨0, 0, by omega, by omega, by omega⟩

instance : Inhabited Instant := ⟨epoch⟩

/-- The instant with these seconds and nanoseconds, if there is one. -/
def ofParts? (seconds : Int) (nanos : Nat) : Option Instant :=
  if h : (-8334601228800 ≤ seconds ∧ seconds ≤ 8210266876799) ∧ nanos < 2000000000 ∧
      (1000000000 ≤ nanos → seconds % 60 = 59) then
    some ⟨seconds, nanos, h.1, h.2.1, h.2.2⟩
  else none

/-- The instant a whole number of seconds after the epoch, if it is in range. -/
def ofSeconds? (seconds : Int) : Option Instant :=
  ofParts? seconds 0

@[simp] theorem ofParts?_self (t : Instant) : ofParts? t.seconds t.nanos = some t := by
  simp only [ofParts?]
  rw [dif_pos ⟨t.inRange, t.nanos_lt, t.leap⟩]

theorem ofParts?_eq_some_iff {s : Int} {n : Nat} {t : Instant} :
    ofParts? s n = some t ↔ s = t.seconds ∧ n = t.nanos := by
  refine ⟨fun h ↦ ?_, fun ⟨hs, hn⟩ ↦ by rw [hs, hn, ofParts?_self]⟩
  unfold ofParts? at h
  split at h
  · cases h; exact ⟨rfl, rfl⟩
  · exact absurd h (by simp)

theorem eq_of_parts {s t : Instant} (hs : s.seconds = t.seconds) (hn : s.nanos = t.nanos) :
    s = t := by
  cases s; cases t; simp_all

/-! ### Order -/

instance : LE Instant where
  le s t := s.seconds < t.seconds ∨ s.seconds = t.seconds ∧ s.nanos ≤ t.nanos

instance : LT Instant where
  lt s t := s.seconds < t.seconds ∨ s.seconds = t.seconds ∧ s.nanos < t.nanos

theorem le_def {s t : Instant} :
    s ≤ t ↔ s.seconds < t.seconds ∨ s.seconds = t.seconds ∧ s.nanos ≤ t.nanos := Iff.rfl

theorem lt_def {s t : Instant} :
    s < t ↔ s.seconds < t.seconds ∨ s.seconds = t.seconds ∧ s.nanos < t.nanos := Iff.rfl

instance (s t : Instant) : Decidable (s ≤ t) :=
  inferInstanceAs (Decidable (_ ∨ _))

instance (s t : Instant) : Decidable (s < t) :=
  inferInstanceAs (Decidable (_ ∨ _))

/-- The later of two instants. -/
instance : Max Instant where
  max s t := if s ≤ t then t else s

theorem max_def (s t : Instant) : max s t = if s ≤ t then t else s := rfl

/-! ### Arithmetic -/

/-- A signed length of time in nanoseconds. -/
abbrev Span := Int

/-- The span of a whole number of seconds. -/
def Span.ofSeconds (n : Int) : Span :=
  n * 1000000000

/-- The instant a span after another.

A leap second is left forwards as the second before it and backwards as the second after it, so
that the one extra second is never counted. A fraction that stays within the leap second keeps
it. -/
def add? (t : Instant) (d : Span) : Option Instant :=
  let whole := d.tdiv 1000000000
  let part := d.tmod 1000000000
  if 1000000000 ≤ t.nanos then
    if 0 < whole ∨ 0 < part ∧ 2000000000 ≤ t.nanos + part then
      settle (t.seconds + whole) (t.nanos - 1000000000 + part)
    else if whole < 0 then
      settle (t.seconds + 1 + whole) (t.nanos - 1000000000 + part)
    else ofParts? t.seconds (t.nanos + part).toNat
  else settle (t.seconds + whole) (t.nanos + part)
where
  /-- Carries at most one second between the parts. -/
  settle (seconds nanos : Int) : Option Instant :=
    if nanos < 0 then ofParts? (seconds - 1) (nanos + 1000000000).toNat
    else if 1000000000 ≤ nanos then ofParts? (seconds + 1) (nanos - 1000000000).toNat
    else ofParts? seconds nanos.toNat

/-- The instant a span before another. -/
def sub? (t : Instant) (d : Span) : Option Instant :=
  t.add? (-d)

/-- Seconds in a day. -/
def secondsPerDay : Int := 86400

/-- The span from `s` to `t`. A leap second between them is counted where the time of day tells
that it was passed. -/
def since (t s : Instant) : Span :=
  let later := t.seconds % 86400
  let earlier := s.seconds % 86400
  let passed : Int :=
    if earlier < later ∧ 1000000000 ≤ s.nanos then 1
    else if later < earlier ∧ 1000000000 ≤ t.nanos then -1
    else 0
  (t.seconds - s.seconds + passed) * 1000000000 + (t.nanos - s.nanos)

end Instant

end AuditFeed
