import AuditFeed.Instant.Basic
import AuditFeed.Word

/-!
# Durations

Lengths of time from zero to `2 ^ 64` seconds less a nanosecond. Sums and products that would be
longer are cut to the longest one.
-/

namespace AuditFeed

/-- A length of time. -/
structure Duration where
  /-- The length in nanoseconds. -/
  nanos : Nat
  /-- No duration is longer than this. -/
  nanos_lt : nanos < Word.limit64 * 1000000000
deriving DecidableEq

namespace Duration

/-- The longest duration. -/
def longest : Duration := ⟨Word.limit64 * 1000000000 - 1, by decide⟩

/-- A duration of this many nanoseconds, or the longest one. -/
def ofNanos (n : Nat) : Duration :=
  if h : n < Word.limit64 * 1000000000 then ⟨n, h⟩ else longest

/-- A duration of this many seconds, or the longest one. -/
def ofSeconds (n : Nat) : Duration :=
  ofNanos (n * 1000000000)

/-- A duration of this many milliseconds, or the longest one. -/
def ofMillis (n : Nat) : Duration :=
  ofNanos (n * 1000000)

instance : Inhabited Duration := ⟨ofNanos 0⟩

/-- The whole seconds of a duration. -/
def seconds (d : Duration) : Nat := d.nanos / 1000000000

/-- The whole milliseconds of a duration. -/
def millis (d : Duration) : Nat := d.nanos / 1000000

/-- Is this no time at all? -/
def isZero (d : Duration) : Bool := d.nanos == 0

/-- The sum of two durations. -/
def add (a b : Duration) : Duration := ofNanos (a.nanos + b.nanos)

/-- A multiple of a duration. -/
def mul (a : Duration) (k : Nat) : Duration := ofNanos (a.nanos * k)

/-- The duration of a span, if the span is not negative. -/
def ofSpan? (d : Instant.Span) : Option Duration :=
  if d < 0 then none else some (ofNanos d.toNat)

end Duration

end AuditFeed
