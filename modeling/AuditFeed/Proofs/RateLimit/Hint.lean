import AuditFeed.Proofs.Duration
import AuditFeed.Proofs.Instant.Since
import AuditFeed.Proofs.RateLimit

/-!
# How long the headers say to wait

A hint at a delay comes from `Retry-After`, or else from the reset. What it tells at each later time
is settled here for all headers that can be read (`RateLimit.hints_of_headers`).

## The two sources of a hint

`Retry-After` gives a delay, as seconds or as what is left until a date, and the delay stays what it
is (`RateLimit.Asks`). The reset is an instant, and the hint is what is left until then: it shrinks
as time goes by, and after the reset there is none (`RateLimit.Tells.antitone`).

## The reset

A reset value is a delay or a time by its size alone (`RateLimit.resetCount`), and either way the
reset is no leap second. So what is left of it is a difference of nanoseconds, if the clock shows no
leap second either. This is where the one condition on the clock comes from.

## What headers say together

`RateLimit.gathered` puts together what the four headers say, and what a hint tells is proved of it.
That reading the headers comes to the same, or to nothing where nothing is said, is one equation
(`RateLimit.ofHeaders_eq`).

## Main statements

* `RateLimit.Tells.antitone`: what is left until an instant shrinks.
* `RateLimit.exists_readReset`: a reset that fits is read.
* `RateLimit.hints_of_headers`: what headers mean for the delay.
-/

namespace AuditFeed

/-- A number that is read with a bound is below it. -/
theorem Text.lt_of_numberBelow? {bound n : Nat} {s : List Char}
    (h : numberBelow? bound s = some n) : n < bound :=
  of_decide_eq_true (Option.filter_eq_some_iff.1 h).2

namespace RateLimit

open Instant (nanosPerSecond)

variable {headers : Http.Headers} {now : Instant} {delay : Duration}

/-! ### What a hint tells -/

/-- A hint tells of a span by its length, and of a negative one by nothing. -/
def Tells (hint : Option Duration) (span : Int) : Prop :=
  match hint with
  | some delay => (delay.nanos : Int) = span
  | none => span < 0

/-- No span between two instants is longer than a duration can be. -/
theorem since_le_longest (s t : Instant) : t.since s ≤ (Duration.longest.nanos : Int) := by
  refine Int.le_trans (Instant.since_le s t) ?_
  have hs := s.count_bounds
  have ht := t.count_bounds
  rw [Duration.nanos_longest]
  omega

/-- The duration of a span tells of it. -/
theorem tells_ofSpan? (s t : Instant) : Tells (Duration.ofSpan? (t.since s)) (t.since s) := by
  have hlong := since_le_longest s t
  rw [Duration.ofSpan?]
  split
  · rename_i h
    exact h
  · rename_i h
    show ((Duration.ofNanos (t.since s).toNat).nanos : Int) = _
    have hpos : (0 : Int) ≤ t.since s := Int.not_lt.1 h
    rw [Duration.nanos_ofNanos_of_le (Int.toNat_le.2 hlong), Int.toNat_of_nonneg hpos]

/-- **What is left until an instant shrinks**, and once there is nothing left there never is. -/
theorem Tells.antitone {early late : Option Duration} {before after : Int} (hle : after ≤ before)
    (hearly : Tells early before) (hlate : Tells late after) (h : late = some delay) :
    ∃ longer, early = some longer ∧ delay ≤ longer := by
  subst h
  have hdelay : (delay.nanos : Int) = after := hlate
  cases early with
  | none =>
    have hneg : before < 0 := hearly
    omega
  | some longer =>
    have hlonger : (longer.nanos : Int) = before := hearly
    refine ⟨longer, rfl, ?_⟩
    rw [Duration.le_def]
    omega

/-! ### What is asked for -/

/-- What a `Retry-After` value asks for. -/
inductive Asks (value : List Char) (now : Instant) (delay : Duration) : Prop
  /-- So many seconds. -/
  | seconds {n : Nat} (h : Text.numberBelow? Word.limit64 value = some n)
      (hdelay : delay.nanos = n * 1000000000)
  /-- What is left until a date. -/
  | date {date : Instant} (hnumber : Text.numberBelow? Word.limit64 value = none)
      (h : Instant.parseRfc2822? value = some date) (hdate : now ≤ date)
      (hdelay : (delay.nanos : Int) = date.since now)
  /-- Nothing, because the date is past. -/
  | past {date : Instant} (hnumber : Text.numberBelow? Word.limit64 value = none)
      (h : Instant.parseRfc2822? value = some date) (hdate : date < now)
      (hdelay : delay.nanos = 0)

/-- So many seconds are never too many for a duration. -/
theorem nanos_ofSeconds {value : List Char} {n : Nat}
    (h : Text.numberBelow? Word.limit64 value = some n) :
    (Duration.ofSeconds n).nanos = n * 1000000000 := by
  have hn := Text.lt_of_numberBelow? h
  refine Duration.nanos_ofNanos_of_le ?_
  rw [Word.limit64] at hn
  rw [Duration.nanos_longest]
  omega

/-- What is left until a date, or nothing if it is past. -/
theorem nanos_until {date : Instant} (hdate : date.IsWhole) (hnow : now.nanos < nanosPerSecond)
    {delay : Duration} (h : (Duration.ofSpan? (date.since now)).getD (.ofNanos 0) = delay) :
    (now ≤ date → (delay.nanos : Int) = date.since now) ∧ (date < now → delay.nanos = 0) := by
  obtain ⟨hcoming, hpast⟩ := Instant.since_of_isWhole hdate hnow
  have htells := tells_ofSpan? now date
  cases hspan : Duration.ofSpan? (date.since now) with
  | none =>
    rw [hspan] at htells h
    cases h
    have hneg : date.since now < (0 : Int) := htells
    exact ⟨fun hle ↦ absurd (hcoming hle) (Int.not_le.2 hneg), fun _ ↦ rfl⟩
  | some left =>
    rw [hspan] at htells h
    obtain rfl : left = delay := h
    have hleft : (left.nanos : Int) = date.since now := htells
    refine ⟨fun _ ↦ hleft, fun hlt ↦ ?_⟩
    have hnone : (left.nanos : Int) ≤ 0 := Int.le_trans (Int.le_of_eq hleft) (hpast hlt)
    omega

/-- **A `Retry-After` value is read as the delay that it asks for.** -/
theorem parseRetryAfter_eq_some_iff {value : List Char} (hnow : now.nanos < nanosPerSecond) :
    parseRetryAfter value now = some delay ↔ Asks value now delay := by
  rw [parseRetryAfter]
  constructor
  · intro h
    split at h
    · rename_i n hn
      cases h
      exact .seconds hn (nanos_ofSeconds hn)
    · rename_i hnumber
      obtain ⟨date, hdate, hdelay⟩ := Option.map_eq_some_iff.1 h
      obtain ⟨hcoming, hpast⟩ := nanos_until (Instant.isWhole_of_parseRfc2822? hdate) hnow hdelay
      rcases Instant.le_or_lt now date with hle | hlt
      · exact .date hnumber hdate hle (hcoming hle)
      · exact .past hnumber hdate hlt (hpast hlt)
  · intro h
    cases h with
    | seconds hn hdelay =>
      rw [hn]
      exact congrArg some (Duration.eq_of_nanos ((nanos_ofSeconds hn).trans hdelay.symm))
    | date hnumber hdate hle hdelay =>
      rw [hnumber, hdate]
      have huntil := (nanos_until (Instant.isWhole_of_parseRfc2822? hdate) hnow rfl).1 hle
      exact congrArg some (Duration.eq_of_nanos (Int.ofNat.inj (huntil.trans hdelay.symm)))
    | past hnumber hdate hlt hdelay =>
      rw [hnumber, hdate]
      have huntil := (nanos_until (Instant.isWhole_of_parseRfc2822? hdate) hnow rfl).2 hlt
      exact congrArg some (Duration.eq_of_nanos (huntil.trans hdelay.symm))

/-! ### The reset -/

/-- The reset value of the headers: a whole number of 64 bits that leads to a time. -/
def resetValue? (headers : Http.Headers) : Option Int :=
  ((headers.text? "x-ratelimit-reset").bind Text.int64?).filter (· ≤ Instant.lastSecond)

/-- The nanoseconds since the epoch at which a reset value, received at a time, resets: it is a
delay below the threshold and a time from there on. -/
def resetCount (value : Int) (now : Instant) : Int :=
  if value < resetEpochThreshold then now.count + value * 1000000000 else value * 1000000000

/-- The reset that headers tell of at a time. -/
inductive Resets (headers : Http.Headers) (now : Instant) : Option Instant → Prop
  /-- It is no leap second. -/
  | once {value : Int} {reset : Instant} (h : resetValue? headers = some value)
      (hplain : reset.nanos < nanosPerSecond) (hcount : reset.count = resetCount value now) :
      Resets headers now (some reset)
  /-- They tell of none. -/
  | never (h : resetValue? headers = none) : Resets headers now none

/-- Outside of leap seconds a delay in seconds is added to the nanoseconds. -/
theorem exists_add?_ofSeconds {n : Int} (hnow : now.nanos < nanosPerSecond) (h : now.Reaches n) :
    ∃ reset, now.add? (.ofSeconds n) = some reset ∧ reset.nanos < nanosPerSecond ∧
      reset.count = now.count + n * 1000000000 := by
  obtain ⟨reset, hsum⟩ := Instant.exists_add?_iff.2 h
  have hparts := hsum
  rw [Instant.add?_ofSeconds, if_neg (Nat.not_le.2 hnow)] at hparts
  obtain ⟨hseconds, hnanos⟩ := Instant.ofParts?_eq_some_iff.1 hparts
  refine ⟨reset, hsum, hnanos ▸ hnow, ?_⟩
  rw [Instant.count, Instant.count, ← hseconds, ← hnanos]
  omega

/-- From the threshold on, the seconds of an instant are those up to the last one. -/
theorem exists_ofSeconds? {n : Int} (hn : resetEpochThreshold ≤ n)
    (hlast : n ≤ Instant.lastSecond) :
    ∃ reset, Instant.ofSeconds? n = some reset ∧ reset.nanos < nanosPerSecond ∧
      reset.count = n * 1000000000 := by
  have hfirst : Instant.firstSecond ≤ resetEpochThreshold := by decide
  obtain ⟨reset, hparts⟩ :=
    (Instant.exists_ofParts?_iff (s := n) (k := 0) (by decide)).2 ⟨by omega, hlast⟩
  obtain ⟨hseconds, hnanos⟩ := Instant.ofParts?_eq_some_iff.1 hparts
  refine ⟨reset, hparts, hnanos ▸ by decide, ?_⟩
  rw [Instant.count, ← hseconds, ← hnanos]
  omega

theorem ofSeconds?_eq_none {n : Int} (h : Instant.lastSecond < n) : Instant.ofSeconds? n = none :=
  Option.eq_none_iff_forall_ne_some.2 fun reset hparts ↦
    Int.not_le.2 h ((Instant.exists_ofParts?_iff (by decide)).1 ⟨reset, hparts⟩).2

/-- The header of the reset, read. -/
def readReset (headers : Http.Headers) (now : Instant) : Except Overflow (Option Instant) :=
  match headers.text? "x-ratelimit-reset" with
  | some value => parseReset value now
  | none => .ok none

/-- **A reset that fits is read**, and it is the one that the headers tell of. -/
theorem exists_readReset (hnow : now.nanos < nanosPerSecond) (hfits : ResetFits headers now) :
    ∃ reset, readReset headers now = .ok reset ∧ Resets headers now reset := by
  rw [readReset]
  cases hvalue : headers.text? "x-ratelimit-reset" with
  | none => exact ⟨none, rfl, .never (by rw [resetValue?, hvalue]; rfl)⟩
  | some value =>
    dsimp only
    rw [parseReset]
    cases hn : Text.int64? value with
    | none => exact ⟨none, rfl, .never (by rw [resetValue?, hvalue, Option.bind_some, hn]; rfl)⟩
    | some n =>
      have hreset : resetValue? headers =
          if decide (n ≤ Instant.lastSecond) then some n else none := by
        rw [resetValue?, hvalue, Option.bind_some, hn, Option.filter_some]
      dsimp only
      split
      · -- A time, which may be too late to be one.
        rename_i htime
        rcases Int.lt_or_le Instant.lastSecond n with hlate | hlast
        · refine ⟨none, congrArg _ (ofSeconds?_eq_none hlate), .never ?_⟩
          rw [hreset, if_neg (by simpa using hlate)]
        · obtain ⟨reset, hparts, hplain, hcount⟩ := exists_ofSeconds? htime hlast
          rw [if_pos (decide_eq_true hlast)] at hreset
          refine ⟨some reset, congrArg _ hparts, .once hreset hplain ?_⟩
          rw [resetCount, if_neg (Int.not_lt.2 htime), hcount]
      · -- A delay, which leads to a time because it fits.
        rename_i hdelay
        have hsmall : n < resetEpochThreshold := Int.not_le.1 hdelay
        have hlast : n ≤ Instant.lastSecond :=
          Int.le_trans (Int.le_of_lt hsmall) (by decide)
        obtain ⟨reset, hsum, hplain, hcount⟩ :=
          exists_add?_ofSeconds hnow (hfits value n hvalue hn hsmall)
        rw [if_pos (decide_eq_true hlast)] at hreset
        refine ⟨some reset, ?_, .once hreset hplain ?_⟩
        · rw [Instant.checked_bind_add? now n fun time ↦ pure (some time), hsum]
          rfl
        · rw [resetCount, if_pos hsmall, hcount]

/-! ### The headers together -/

/-- The number that a header gives. -/
def number? (headers : Http.Headers) (name : String) : Option Nat :=
  (headers.text? name).bind (Text.numberBelow? Word.limit64)

/-- The delay that `Retry-After` asks for at a time. -/
def AsksFor (headers : Http.Headers) (now : Instant) (delay : Duration) : Prop :=
  ∃ value, headers.text? "retry-after" = some value ∧ Asks value now delay

/-- The header asks for the delay that is read of it. -/
theorem asksFor_iff (hnow : now.nanos < nanosPerSecond) :
    AsksFor headers now delay ↔
      (headers.text? "retry-after").bind (parseRetryAfter · now) = some delay := by
  rw [Option.bind_eq_some_iff, AsksFor]
  exact exists_congr fun value ↦ and_congr_right fun _ ↦ (parseRetryAfter_eq_some_iff hnow).symm

/-- What the headers say, one by one. -/
def gathered (headers : Http.Headers) (now : Instant) (reset : Option Instant) : RateLimit where
  limit := number? headers "x-ratelimit-limit"
  remaining := number? headers "x-ratelimit-remaining"
  resetAt := reset
  retryAfter := (headers.text? "retry-after").bind (parseRetryAfter · now)

/-- Headers whose reset is read are read as what they say, or as nothing. -/
theorem ofHeaders_eq {reset : Option Instant} (h : readReset headers now = .ok reset) :
    ofHeaders headers now =
      .ok (if (gathered headers now reset).isEmpty then none
        else some (gathered headers now reset)) := by
  rw [readReset] at h
  rw [ofHeaders]
  cases hvalue : headers.text? "x-ratelimit-reset" with
  | none =>
    rw [hvalue] at h
    cases h
    rfl
  | some value =>
    rw [hvalue] at h
    dsimp only at h ⊢
    rw [h]
    rfl

/-- Nothing is said if none of the four is there. -/
theorem isEmpty_iff {r : RateLimit} :
    r.isEmpty = true ↔
      r.limit = none ∧ r.remaining = none ∧ r.resetAt = none ∧ r.retryAfter = none := by
  simp [isEmpty, and_assoc]

/-! ### The delay -/

/-- The reset hint at a time that is no leap second tells of what is left until the reset. -/
theorem tells_delayFrom {r : RateLimit} {reset t : Instant} (hasked : r.retryAfter = none)
    (hreset : r.resetAt = some reset) (hplain : reset.nanos < nanosPerSecond)
    (ht : t.nanos < nanosPerSecond) : Tells (r.delayFrom t) (reset.count - t.count) := by
  rw [delayFrom, hasked, hreset, ← Instant.since_of_plain ht hplain]
  exact tells_ofSpan? t reset

/-- **What the reset of headers that were received at a time tells of.** -/
structure TellsOfReset (headers : Http.Headers) (now : Instant) (r : RateLimit) : Prop where
  /-- A value below the threshold is a delay of so many seconds. -/
  delay : ∀ value, resetValue? headers = some value → value < resetEpochThreshold →
    Tells (r.delayFrom now) (value * 1000000000)
  /-- Any other is a time: what is left are its seconds less what has gone by since the epoch. -/
  time : ∀ value, resetValue? headers = some value → resetEpochThreshold ≤ value →
    Tells (r.delayFrom now) (value * 1000000000 - now.count)
  /-- Later, what is left until the reset. -/
  later : ∀ value, resetValue? headers = some value →
    ∃ reset, r.resetAt = some reset ∧ reset.count = resetCount value now ∧
      ∀ t, now ≤ t → t.nanos < nanosPerSecond → Tells (r.delayFrom t) (reset.count - t.count)
  /-- Without a value, nothing at any time. -/
  never : resetValue? headers = none → ∀ t, r.delayFrom t = none

/-- **How long headers that were received at a time say to wait.** -/
structure Hints (headers : Http.Headers) (now : Instant) (r : RateLimit) : Prop where
  /-- The delay that `Retry-After` asks for is the hint at any time. -/
  asked : ∀ delay, AsksFor headers now delay → ∀ t, r.delayFrom t = some delay
  /-- Otherwise the reset tells. -/
  unasked : (∀ delay, ¬ AsksFor headers now delay) → TellsOfReset headers now r
  /-- As time goes by a hint never grows, and none appears. -/
  shrinks : ∀ t u, t.nanos < nanosPerSecond → u.nanos < nanosPerSecond → t ≤ u →
    ∀ late, r.delayFrom u = some late → ∃ early, r.delayFrom t = some early ∧ late ≤ early

section

variable {reset : Option Instant} (h : Resets headers now reset)
include h

/-- Without a delay to wait the reset tells. -/
theorem tellsOfReset_gathered (hnow : now.nanos < nanosPerSecond)
    (hasked : (gathered headers now reset).retryAfter = none) :
    TellsOfReset headers now (gathered headers now reset) := by
  cases h with
  | never hvalue =>
    have hnever (t : Instant) : (gathered headers now none).delayFrom t = none := by
      rw [delayFrom, hasked]
      rfl
    refine ⟨?_, ?_, ?_, fun _ ↦ hnever⟩ <;>
    · intro value hsome
      rw [hvalue] at hsome
      cases hsome
  | @once value reset hvalue hplain hcount =>
    have hleft {t : Instant} (ht : t.nanos < nanosPerSecond) :=
      tells_delayFrom hasked rfl hplain ht
    have hnowLeft := hleft hnow
    rw [hcount, resetCount] at hnowLeft
    refine ⟨?_, ?_, ?_, ?_⟩ <;> rw [hvalue]
    · rintro _ ⟨⟩ hsmall
      have hdelay : now.count + value * 1000000000 - now.count = value * 1000000000 := by omega
      rw [if_pos hsmall, hdelay] at hnowLeft
      exact hnowLeft
    · rintro _ ⟨⟩ hlarge
      rw [if_neg (Int.not_lt.2 hlarge)] at hnowLeft
      exact hnowLeft
    · rintro _ ⟨⟩
      exact ⟨reset, rfl, hcount, fun t _ ↦ hleft⟩
    · intro hnone
      cases hnone

/-- What is gathered from the headers tells how long to wait. -/
theorem hints_gathered (hnow : now.nanos < nanosPerSecond) :
    Hints headers now (gathered headers now reset) := by
  refine ⟨fun delay hasks t ↦ ?_, fun hnobody ↦ ?_, fun t u ht hu hle late hlate ↦ ?_⟩
  · have hasked : (gathered headers now reset).retryAfter = some delay := (asksFor_iff hnow).1 hasks
    rw [delayFrom, hasked]
  · have hasked : (gathered headers now reset).retryAfter = none :=
      Option.eq_none_iff_forall_ne_some.2 fun delay hdelay ↦
        hnobody delay ((asksFor_iff hnow).2 hdelay)
    exact tellsOfReset_gathered h hnow hasked
  · cases hasked : (gathered headers now reset).retryAfter with
    | some delay =>
      rw [delayFrom, hasked] at hlate ⊢
      exact ⟨late, hlate, Duration.le_refl late⟩
    | none =>
      cases h with
      | never hvalue =>
        rw [delayFrom, hasked] at hlate
        cases hlate
      | once hvalue hplain hcount =>
        have hcounts := (Instant.le_iff_of_plain ht hu).1 hle
        exact (tells_delayFrom hasked rfl hplain ht).antitone (by omega)
          (tells_delayFrom hasked rfl hplain hu) hlate

end

/-- **What headers mean for the delay**, whatever they hold and whenever they are received outside
of a leap second, if the reset fits. They say nothing exactly if none of the four has a value: the
limit and the remaining requests a number, the reset a value that leads to a time, and `Retry-After`
a delay that it asks for. Otherwise they are a hint as `Hints` says. -/
theorem hints_of_headers (hnow : now.nanos < nanosPerSecond) (hfits : ResetFits headers now) :
    ∃ answer, ofHeaders headers now = .ok answer ∧
      (answer = none ↔
        number? headers "x-ratelimit-limit" = none ∧
          number? headers "x-ratelimit-remaining" = none ∧ resetValue? headers = none ∧
          ∀ delay, ¬ AsksFor headers now delay) ∧
      ∀ r, answer = some r → Hints headers now r := by
  obtain ⟨reset, hread, hreset⟩ := exists_readReset hnow hfits
  have hvalue : reset = none ↔ resetValue? headers = none := by
    cases hreset with
    | never h => exact iff_of_true rfl h
    | once h => simp [h]
  have hasked : (headers.text? "retry-after").bind (parseRetryAfter · now) = none ↔
      ∀ delay, ¬ AsksFor headers now delay := by
    rw [Option.eq_none_iff_forall_ne_some]
    exact forall_congr' fun delay ↦ not_congr (asksFor_iff hnow).symm
  refine ⟨_, ofHeaders_eq hread, ?_, fun r hr ↦ ?_⟩
  · rw [← hvalue, ← hasked]
    have hempty := @isEmpty_iff (gathered headers now reset)
    split
    · rename_i h
      exact iff_of_true rfl (hempty.1 h)
    · rename_i h
      exact iff_of_false (Option.some_ne_none _) (mt hempty.2 h)
  · split at hr
    · cases hr
    · cases hr
      exact hints_gathered hreset hnow

/-- No request is left, until half a minute after that morning. -/
def soonReset : Http.Headers :=
  [("x-ratelimit-remaining", "0"), ("x-ratelimit-reset", "1710496830")]

/-- The reset is half a minute away, and the hint says so. -/
theorem hints_of_headers_soonReset :
    morning.nanos < nanosPerSecond ∧ ResetFits soonReset morning ∧
      ∃ r, ofHeaders soonReset morning = .ok (some r) ∧ Hints soonReset morning r ∧
        r.delayFrom morning = some (.ofSeconds 30) := by
  have hplain : morning.nanos < nanosPerSecond := by decide
  have hread : ofHeaders soonReset morning =
      .ok (some (gathered soonReset morning (Instant.ofSeconds? 1710496830))) := by rfl
  have hfits : ResetFits soonReset morning := ofHeaders_ok_iff.1 ⟨_, hread⟩
  obtain ⟨answer, hanswer, -, hhints⟩ := hints_of_headers hplain hfits
  cases hanswer.symm.trans hread
  exact ⟨hplain, hfits, _, hread, hhints _ rfl, by decide⟩

end RateLimit

end AuditFeed
