import AuditFeed.Instant.Basic
import AuditFeed.Word

/-!
# Overflow

The ways in which the program stops without an answer: a time or a length of time is out of range,
or a text is cut inside of a character.
-/

namespace AuditFeed

/-- Why the program stops without an answer. -/
inductive Overflow where
  /-- A time or a length of time is out of range. -/
  | time
  /-- A text is cut where no character starts. -/
  | text
deriving DecidableEq

/-- The value, or an overflow where there is none. -/
def Overflow.check (a : Option α) : Except Overflow α :=
  match a with
  | some a => .ok a
  | none => .error .time

/-- The part of a text, or an overflow where there is none. -/
def Overflow.inText (a : Option α) : Except Overflow α :=
  match a with
  | some a => .ok a
  | none => .error .text

namespace Instant.Span

/-- The greatest number of seconds that a span may have. -/
def maxSeconds : Nat := (Word.limit63 - 1) / 1000

/-- The span of a whole number of seconds, if a span may have so many. -/
def checked (seconds : Int) : Except Overflow Span :=
  if seconds.natAbs ≤ maxSeconds then .ok (ofSeconds seconds) else .error .time

end Instant.Span

end AuditFeed
