import AuditFeed.Duration
import AuditFeed.Http.Headers
import AuditFeed.Instant.Rfc2822
import AuditFeed.Overflow
import AuditFeed.Word

/-!
# Rate limits

What the headers of a response say about how many requests are left and when to come back.

Header values that do not read as they should are as good as absent. A reset that is given as a
delay is added to the current time, which can leave the range of times; that is the one way in which
reading fails.
-/

namespace AuditFeed

/-- What a response says about its rate limit. -/
structure RateLimit where
  /-- Requests allowed in the current window. -/
  limit : Option Nat
  /-- Requests left in the current window. -/
  remaining : Option Nat
  /-- When the window resets. -/
  resetAt : Option Instant
  /-- The delay that `Retry-After` asks for. -/
  retryAfter : Option Duration
deriving DecidableEq

namespace RateLimit

/-- Did no header say anything? -/
def isEmpty (r : RateLimit) : Bool :=
  r.limit.isNone && r.remaining.isNone && r.resetAt.isNone && r.retryAfter.isNone

/-- How long to wait from a time on. `Retry-After` wins over the reset time, and a reset in the past
says nothing. -/
def delayFrom (r : RateLimit) (now : Instant) : Option Duration :=
  match r.retryAfter with
  | some delay => some delay
  | none => r.resetAt.bind fun reset ↦ Duration.ofSpan? (reset.since now)

/-- A reset value below this is a delay in seconds, any other a time in seconds since the epoch. -/
def resetEpochThreshold : Int := 1000000000

/-- The time that a reset value denotes. -/
def parseReset (value : List Char) (now : Instant) : Except Overflow (Option Instant) :=
  match Text.int64? value with
  | none => .ok none
  | some n =>
    if resetEpochThreshold ≤ n then .ok (Instant.ofSeconds? n)
    else do return some (← Overflow.check (now.add? (← Instant.Span.checked n)))

/-- The delay that a `Retry-After` value denotes: seconds, or a date, of which one in the past asks
for no delay. -/
def parseRetryAfter (value : List Char) (now : Instant) : Option Duration :=
  match Text.numberBelow? Word.limit64 value with
  | some n => some (.ofSeconds n)
  | none =>
    (Instant.parseRfc2822? value).map fun date ↦
      (Duration.ofSpan? (date.since now)).getD (.ofNanos 0)

/-- What the headers of a response say, or `none` if they say nothing. -/
def ofHeaders (headers : Http.Headers) (now : Instant) : Except Overflow (Option RateLimit) := do
  let number := fun name ↦ (headers.text? name).bind (Text.numberBelow? Word.limit64)
  let resetAt ← match headers.text? "x-ratelimit-reset" with
    | some value => parseReset value now
    | none => .ok none
  let detail : RateLimit := {
    limit := number "x-ratelimit-limit"
    remaining := number "x-ratelimit-remaining"
    resetAt
    retryAfter := (headers.text? "retry-after").bind (parseRetryAfter · now) }
  return if detail.isEmpty then none else some detail

end RateLimit

end AuditFeed
