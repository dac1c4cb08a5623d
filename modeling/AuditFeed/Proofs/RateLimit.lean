import AuditFeed.Proofs.Instant.Range
import AuditFeed.Proofs.Session
import AuditFeed.Provider

/-!
# Which headers can be read

Of the four headers that tell of a rate limit only the reset can go wrong. A reset that is a time in
seconds is no reset where there is no such time, like any value that does not read as it should. A
reset that is a delay is added to the current time first, and where that leaves the range of times
there is no answer at all, neither for the headers nor for the response that they come with
(`RateLimit.headers_read_iff`).

## When a reset does not fit

`RateLimit.ResetFits` asks of the reset what can go wrong with it: if it is a whole number below the
threshold between the two meanings, it has to lead from the current time to another one. Delays are
below the threshold, so it takes a negative one, or a clock that is near the end of the range.

Everything else is passed on: a header that is missing, one that is no text, and one that is no
number are no reset, and the other three headers are read on their own.

## Main statements

* `RateLimit.headers_read_iff`: which headers can be read.
* `RateLimit.overflow_farReset`: headers that cannot.
-/

namespace AuditFeed.RateLimit

open Call

/-- Does the reset lead to a time, if the headers give it as a delay? -/
def ResetFits (headers : Http.Headers) (now : Instant) : Prop :=
  ∀ value n, headers.text? "x-ratelimit-reset" = some value → Text.int64? value = some n →
    n < resetEpochThreshold → now.Reaches n

variable {headers : Http.Headers} {now : Instant}

/-- A reset value is read unless it is a delay that leads to no time. -/
theorem parseReset_ok_iff {value : List Char} :
    (∃ reset, parseReset value now = .ok reset) ↔
      ∀ n, Text.int64? value = some n → n < resetEpochThreshold → now.Reaches n := by
  rw [parseReset]
  cases hn : Text.int64? value with
  | none =>
    refine ⟨fun _ n h ↦ ?_, fun _ ↦ ⟨none, rfl⟩⟩
    cases h
  | some n =>
    dsimp only
    split
    · rename_i hlarge
      refine ⟨fun _ k hk hsmall ↦ ?_, fun _ ↦ ⟨_, rfl⟩⟩
      cases hk
      exact absurd hlarge (Int.not_le.2 hsmall)
    · rename_i hsmall
      rw [Instant.checked_bind_add? now n fun time ↦ pure (some time)]
      constructor
      · rintro ⟨reset, h⟩ k hk -
        cases hk
        obtain ⟨time, hsum, -⟩ := Overflow.check_bind_ok_iff.1 h
        exact Instant.exists_add?_iff.1 ⟨time, hsum⟩
      · intro h
        obtain ⟨time, hsum⟩ := Instant.exists_add?_iff.2 (h n rfl (Int.not_le.1 hsmall))
        exact ⟨some time, Overflow.check_bind_ok_iff.2 ⟨time, hsum, rfl⟩⟩

/-- Headers are read unless their reset is a delay that leads to no time. -/
theorem ofHeaders_ok_iff : (∃ r, ofHeaders headers now = .ok r) ↔ ResetFits headers now := by
  rw [ofHeaders, ResetFits]
  cases hvalue : headers.text? "x-ratelimit-reset" with
  | none =>
    refine ⟨fun _ value n h ↦ ?_, fun _ ↦ ⟨_, rfl⟩⟩
    cases h
  | some value =>
    have hreset : (∃ reset, parseReset value now = .ok reset) ↔
        ∀ value' n, some value = some value' → Text.int64? value' = some n →
          n < resetEpochThreshold → now.Reaches n := by
      rw [parseReset_ok_iff]
      constructor
      · rintro h _ n ⟨⟩
        exact h n
      · exact fun h n ↦ h value n rfl
    rw [← hreset]
    -- What is done with the reset does not fail.
    dsimp only
    constructor
    · rintro ⟨r, h⟩
      cases hparse : parseReset value now with
      | error o =>
        rw [hparse] at h
        cases h
      | ok reset => exact ⟨reset, rfl⟩
    · rintro ⟨reset, h⟩
      rw [h]
      exact ⟨_, rfl⟩

/-- **Which headers can be read.** For all headers and every time that a clock can show, reading
them gives a result exactly if their reset, where it is a whole number below the threshold, leads
from that time to another one. A response is read, to a value or an error, exactly if its headers
are, whatever its status and its body. -/
theorem headers_read_iff (headers : Http.Headers) (now : Instant) :
    ((∃ r, ofHeaders headers now = .ok r) ↔ ResetFits headers now) ∧
      ∀ {ω α : Type} (d : Json.Document α) (response : Http.Response) (s : Session ω),
        (Provider.readResponse d response : Call ω RequestError α).Ends s ↔
          ResetFits response.headers s.now := by
  refine ⟨ofHeaders_ok_iff, fun d response s ↦ ?_⟩
  rw [← ofHeaders_ok_iff, Provider.readResponse, ends_bind]
  constructor
  · rintro ⟨-, h⟩
    exact ends_checked.1 (ends_bind.1 (h s s (returns_get.2 ⟨rfl, rfl⟩))).1
  · intro h
    refine ⟨ends_get, fun u t hget ↦ ?_⟩
    obtain ⟨rfl, rfl⟩ := returns_get.1 hget
    -- Once the headers are read, every way through the body ends.
    refine ends_bind.2 ⟨ends_checked.2 h, fun rateLimit t _ ↦ ?_⟩
    split
    · exact ends_throw _
    · split
      · split
        · exact ends_pure _
        · exact ends_throw _
      · exact ends_throw _

/-! ### A reset before all times -/

/-- A reset that is further back than any time. -/
def farReset : Http.Headers :=
  [("x-ratelimit-limit", "100"), ("x-ratelimit-reset", "-9223372036854775808")]

/-- 2024-03-15T10:00:00Z. -/
def morning : Instant :=
  (Instant.ofSeconds? 1710496800).getD .epoch

/-- From that morning a delay may lead back to the first second of all, and no further. -/
example : morning.Reaches (-8336311725600) ∧ ¬ morning.Reaches (-8336311725601) := by
  decide

/-- **A reset that no time fits stops the reading**, of the headers and of the response with them,
though it tells of success. -/
theorem overflow_farReset :
    ofHeaders farReset morning = .error .time ∧ (¬ ∃ r, ofHeaders farReset morning = .ok r) ∧
      (Provider.readResponse Json.directoryEntry ⟨200, farReset, [], none⟩ :
        Call Unit RequestError String).outcome (.start () morning) = .error .time := by
  have hoverflow : ofHeaders farReset morning = .error .time := by rfl
  refine ⟨hoverflow, ?_, ?_⟩
  · rintro ⟨r, h⟩
    cases hoverflow.symm.trans h
  · have hread : ofHeaders farReset (Session.start () morning).now = .error .time := hoverflow
    rw [Provider.readResponse, outcome_bind, outcome_get]
    simp only [outcome_bind, outcome_checked, hread]
    rfl

end AuditFeed.RateLimit
