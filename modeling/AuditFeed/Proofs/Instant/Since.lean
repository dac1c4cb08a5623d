import AuditFeed.Instant.Rfc2822
import AuditFeed.Proofs.Instant.Before

/-!
# The span between two instants

Outside of leap seconds the span from one instant to another is the difference of their nanoseconds
since the epoch (`Instant.since_of_plain`), and the sign of it is their order
(`Instant.le_iff_of_plain`). How long to wait until an instant is such a span.

## Dates

The dates of mail and of HTTP have no fractions, but they may name a leap second. A date is a whole
second then (`Instant.isWhole_of_parseRfc2822?`), and it is past or not as the span to it is
negative or not, with one exception that does no harm: at midnight the span back to the very leap
second before it is nothing (`Instant.since_of_isWhole`).

That a date is a whole second is read off the last scanner of a long sequence, since that one makes
the reading (`Text.Scan.Yields.bind`). What comes before does not matter.

## Bounds

No span between two instants is longer than the range of instants and one leap second
(`Instant.count_bounds`, `Instant.since_le`). So none is cut where it is taken for a duration.

## Main statements

* `Instant.since_of_plain`: spans outside of leap seconds.
* `Instant.since_of_isWhole`: spans to a date.
-/

namespace AuditFeed

namespace Instant

variable {s t : Instant}

protected theorem le_or_lt (s t : Instant) : s ≤ t ∨ t < s := by
  rw [le_def, lt_def]
  omega

/-! ### Outside of leap seconds -/

/-- Outside of leap seconds the order is that of the nanoseconds. -/
theorem le_iff_of_plain (hs : s.nanos < nanosPerSecond) (ht : t.nanos < nanosPerSecond) :
    s ≤ t ↔ s.count ≤ t.count := by
  rw [nanosPerSecond] at hs ht
  rw [le_def, count, count]
  constructor <;> omega

/-- **Outside of leap seconds a span is a difference of nanoseconds.** -/
theorem since_of_plain (hs : s.nanos < nanosPerSecond) (ht : t.nanos < nanosPerSecond) :
    t.since s = t.count - s.count := by
  rw [nanosPerSecond] at hs ht
  rw [since, if_neg (by omega), if_neg (by omega), count, count]
  show (_ : Int) = _
  omega

/-! ### Bounds -/

/-- The first and the last nanosecond of the range of instants. -/
theorem count_bounds (t : Instant) :
    -8334601228800000000000 ≤ t.count ∧ t.count < 8210266876801000000000 := by
  have hrange := t.inRange
  have hnanos := t.nanos_lt
  rw [count]
  omega

/-- A span counts at most one leap second more than the nanoseconds do. -/
theorem since_le (s t : Instant) : t.since s ≤ (t.count - s.count + 1000000000 : Int) := by
  have hpassed (p q : Prop) [Decidable p] [Decidable q] :
      (if p then 1 else if q then -1 else 0 : Int) ≤ 1 := by
    split
    · omega
    · split <;> omega
  have hone := hpassed (s.seconds % 86400 < t.seconds % 86400 ∧ 1000000000 ≤ s.nanos)
    (t.seconds % 86400 < s.seconds % 86400 ∧ 1000000000 ≤ t.nanos)
  simp only [since, count]
  show (_ : Int) ≤ _
  omega

/-! ### Whole seconds -/

/-- Is this the start of a second, of a leap second too? -/
def IsWhole (t : Instant) : Prop :=
  t.nanos = 0 ∨ t.nanos = nanosPerSecond

/-- The span to a whole second is not negative if that second is not past, and else not positive. -/
theorem since_of_isWhole (ht : t.IsWhole) (hs : s.nanos < nanosPerSecond) :
    (s ≤ t → (0 : Int) ≤ t.since s) ∧ (t < s → t.since s ≤ (0 : Int)) := by
  rw [IsWhole, nanosPerSecond] at ht
  rw [nanosPerSecond] at hs
  rw [le_def, lt_def]
  simp only [since]
  constructor
  · intro h
    split
    · omega
    · split <;> omega
  · intro h
    show (_ : Int) ≤ 0
    split
    · omega
    · split <;> omega

end Instant

/-! ### Dates are whole seconds -/

namespace Text.Scan

variable {α β : Type} {P : α → Prop}

/-- Whatever a scanner reads has a property. -/
def Yields (p : Scan α) (P : α → Prop) : Prop :=
  ∀ s a rest, p s = some (a, rest) → P a

/-- The last scanner of a sequence decides what is read. -/
theorem Yields.bind {p : Scan β} {f : β → Scan α} (h : ∀ b, Yields (f b) P) :
    Yields (p >>= f) P := by
  intro s a rest hread
  obtain ⟨⟨b, middle⟩, -, hlast⟩ := Option.bind_eq_some_iff.1 hread
  exact h b middle a rest hlast

theorem Yields.pure {a : α} (h : P a) : Yields (pure a) P := by
  rintro s _ rest ⟨⟩
  exact h

/-- A scanner of a whole text reads nothing else. -/
theorem Yields.whole {p : Scan α} (h : Yields p P) {s : List Char} {a : α}
    (hread : p.whole s = some a) : P a := by
  obtain ⟨⟨b, rest⟩, hb, hend⟩ := Option.bind_eq_some_iff.1 hread
  dsimp only at hend
  split at hend
  · cases hend
    exact h s a rest hb
  · cases hend

end Text.Scan

namespace Instant

open Calendar Text

/-- A date of mail has no place for fractions of a second. -/
theorem yields_scanRfc2822 : Scan.Yields scanRfc2822 fun r ↦ r.2.1.nanos = 0 := by
  unfold scanRfc2822
  repeat refine .bind fun _ ↦ ?_
  exact .pure rfl

/-- The nanoseconds of an instant are those that the clock shows, after a second in second 60. -/
theorem nanos_of_ofCivil? {c : Civil} {offset : Int} {t : Instant}
    (h : ofCivil? c offset = some t) :
    t.nanos = c.nanos + if c.second = 60 then nanosPerSecond else 0 := by
  rw [ofCivil?] at h
  obtain ⟨-, -, h⟩ := Option.bind_eq_some_iff.1 h
  obtain ⟨-, -, h⟩ := Option.bind_eq_some_iff.1 h
  exact (ofParts?_eq_some_iff.1 h).2.symm

/-- **A date of mail is a whole second.** -/
theorem isWhole_of_parseRfc2822? {s : List Char} {t : Instant} (h : parseRfc2822? s = some t) :
    t.IsWhole := by
  obtain ⟨⟨claimed, c, offset⟩, hscan, h⟩ := Option.bind_eq_some_iff.1 h
  obtain ⟨-, -, h⟩ := Option.bind_eq_some_iff.1 h
  obtain ⟨u, hu, h⟩ := Option.bind_eq_some_iff.1 h
  have hnanos : c.nanos = 0 := yields_scanRfc2822.whole hscan
  have hut : u = t := by
    split at h
    · exact Option.some.inj h
    · cases h
  rw [← hut, IsWhole, nanos_of_ofCivil? hu, hnanos, Nat.zero_add]
  split
  · exact .inr rfl
  · exact .inl rfl

end Instant

end AuditFeed
