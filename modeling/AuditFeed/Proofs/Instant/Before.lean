import AuditFeed.Proofs.Instant.Range

/-!
# A span before an instant

Spans of any number of nanoseconds, and the instants that are so long before another one. A feed
starts such a span before the current time.

## Leap seconds

Backwards nothing is lost in a leap second: whether the span starts in one, stays in it or leaves
it, the nanoseconds since the epoch go down by exactly the span (`Instant.sub?_spec`). The
nanoseconds of a leap second are counted on from the second before it, and subtraction carries
through that same second. So `Instant.count` is all that has to be looked at.

## Carrying

Going back is put down to one function that takes seconds and nanoseconds that are off by at most
one second, and carries. It keeps their number (`Instant.count_of_settle`) and ends in an instant
exactly if that is one of the range (`Instant.exists_settle_iff`). Only a span of less than a second
from within a leap second does without it.

## Main statements

* `Instant.sub?_spec`: the instant a span before another one.
* `Instant.exists_sub?_iff`: there is one unless the range of instants starts later.
-/

namespace AuditFeed.Instant

variable {t u : Instant} {d : Int}

/-- The nanoseconds since the epoch. Those of a leap second are counted on from the second before
it. -/
def count (t : Instant) : Int :=
  t.seconds * 1000000000 + t.nanos

/-! ### Carrying -/

section

variable {s n : Int} (hn : -1000000000 ≤ n ∧ n < 2000000000)
include hn

/-- Carrying keeps the number of nanoseconds, and never ends in a leap second. -/
theorem count_of_settle (h : add?.settle s n = some u) :
    u.count = s * 1000000000 + n ∧ u.nanos < nanosPerSecond := by
  rw [add?.settle] at h
  rw [count, nanosPerSecond]
  split at h
  · obtain ⟨hs, hnanos⟩ := ofParts?_eq_some_iff.1 h
    omega
  · split at h
    · obtain ⟨hs, hnanos⟩ := ofParts?_eq_some_iff.1 h
      omega
    · obtain ⟨hs, hnanos⟩ := ofParts?_eq_some_iff.1 h
      omega

/-- It ends in an instant exactly if the number is one of the range. -/
theorem exists_settle_iff :
    (∃ u, add?.settle s n = some u) ↔
      firstSecond * 1000000000 ≤ s * 1000000000 + n ∧
        s * 1000000000 + n < (lastSecond + 1) * 1000000000 := by
  rw [add?.settle]
  split
  · rw [exists_ofParts?_iff (by rw [nanosPerSecond]; omega)]
    omega
  · split
    · rw [exists_ofParts?_iff (by rw [nanosPerSecond]; omega)]
      omega
    · rw [exists_ofParts?_iff (by rw [nanosPerSecond]; omega)]
      omega

end

/-! ### Going back -/

/-- Going back within a leap second keeps the second; going back from anywhere else, or out of one,
carries at most one second. -/
theorem sub?_eq (t : Instant) (hd : 0 ≤ d) :
    t.sub? d =
      if nanosPerSecond ≤ t.nanos then
        if d < 1000000000 then ofParts? t.seconds (t.nanos - d).toNat
        else add?.settle (t.seconds + 1 - d / 1000000000)
          (t.nanos - 1000000000 - d % 1000000000)
      else add?.settle (t.seconds - d / 1000000000) (t.nanos - d % 1000000000) := by
  -- A span is divided towards zero, so going back divides as going forward does.
  have hwhole : (-d).tdiv 1000000000 = -(d / 1000000000) := by
    rw [Int.neg_tdiv, Int.tdiv_eq_ediv_of_nonneg hd]
  have hpart : (-d).tmod 1000000000 = -(d % 1000000000) := by
    rw [Int.neg_tmod, Int.tmod_eq_emod_of_nonneg hd]
  rw [sub?, add?, hwhole, hpart, nanosPerSecond, ← Int.sub_eq_add_neg, ← Int.sub_eq_add_neg,
    ← Int.sub_eq_add_neg, ← Int.sub_eq_add_neg]
  split
  · rw [if_neg (by omega)]
    by_cases hshort : d < 1000000000
    · rw [if_neg (by omega), if_pos hshort, Int.emod_eq_of_lt hd hshort]
    · rw [if_pos (by omega), if_neg hshort]
  · rfl

/-- **The instant a span before another one.** It is exactly so much earlier, and in a leap second
only if the other one is. -/
theorem sub?_spec (hd : 0 ≤ d) (h : t.sub? d = some u) :
    u.count = t.count - d ∧ (t.nanos < nanosPerSecond → u.nanos < nanosPerSecond) ∧
      (0 < d → u < t) := by
  have hnanos := t.nanos_lt
  have hdiv : d / 1000000000 * 1000000000 + d % 1000000000 = d := by omega
  rw [sub?_eq t hd] at h
  rw [lt_def]
  split at h
  · rename_i hleap
    rw [nanosPerSecond] at *
    split at h
    · rename_i hshort
      obtain ⟨hs, hn⟩ := ofParts?_eq_some_iff.1 h
      rw [count, count]
      omega
    · rename_i hlong
      obtain ⟨hcount, hplain⟩ := count_of_settle (by omega) h
      rw [nanosPerSecond] at hplain
      rw [count] at *
      rw [count]
      omega
  · rename_i hplain
    rw [nanosPerSecond] at *
    obtain ⟨hcount, hplain'⟩ := count_of_settle (by omega) h
    rw [nanosPerSecond] at hplain'
    rw [count] at *
    rw [count]
    omega

/-- **There is an instant a span before another one, unless the range starts later.** -/
theorem exists_sub?_iff (hd : 0 ≤ d) :
    (∃ u, t.sub? d = some u) ↔ firstSecond * 1000000000 ≤ t.count - d := by
  have hrange : firstSecond ≤ t.seconds ∧ t.seconds ≤ lastSecond := t.inRange
  have hnanos := t.nanos_lt
  rw [sub?_eq t hd, count, nanosPerSecond]
  split
  · rename_i hleap
    split
    · -- The second is kept, so there is no bound to be near to.
      rename_i hshort
      let u : Instant :=
        ⟨t.seconds, (t.nanos - d).toNat, t.inRange, by omega, fun _ ↦ t.leap hleap⟩
      exact iff_of_true ⟨u, ofParts?_eq_some_iff.2 ⟨rfl, rfl⟩⟩ (by omega)
    · rw [exists_settle_iff (by omega)]
      omega
  · rw [exists_settle_iff (by omega)]
    omega

end AuditFeed.Instant
