import AuditFeed.Overflow

/-!
# Whole seconds after an instant

Where a whole number of seconds after an instant is still an instant (`Instant.exists_add?_iff`).
Lifetimes of tokens and delays of rate limits are added in whole seconds, and either may come from
the outside as any number.

## Leap seconds

The answer depends on the seconds of the instant alone, but for a leap second: it is left forwards
as the second before it and backwards as the second after it, so the two bounds are counted from
different seconds. `Instant.Reaches` has one bound from each, and `Instant.secondsUp` counts a leap
second as the second after it.

## Two steps

A lifetime is added and then a minute is taken off. Whether the second step is within the range is
said by the first instant (`Instant.reaches_minute_before`).

## The length of a span

Spans are checked for their length before they are added. The range of instants is far shorter than
the longest span, so that check never decides anything (`Instant.checked_bind_add?`).

## Main statements

* `Instant.exists_add?_iff`: whether there is an instant so many seconds later.
* `Instant.reaches_minute_before`: and one a minute before that.
-/

namespace AuditFeed

/-- A check and what follows it give a value exactly if there is something to go on with. -/
theorem Overflow.check_bind_ok_iff {α β : Type} {a : Option α} {f : α → Except Overflow β} {b : β} :
    Overflow.check a >>= f = .ok b ↔ ∃ x, a = some x ∧ f x = .ok b := by
  cases a with
  | none =>
    refine ⟨fun h ↦ ?_, fun ⟨x, hx, _⟩ ↦ ?_⟩
    · cases h
    · cases hx
  | some x => exact ⟨fun h ↦ ⟨x, rfl, h⟩, fun ⟨_, hx, h⟩ ↦ Option.some.inj hx ▸ h⟩

namespace Instant

/-- The first second of the range of instants. -/
def firstSecond : Int := -8334601228800

/-- The last second of the range of instants. -/
def lastSecond : Int := 8210266876799

/-- The seconds of an instant, where a leap second counts as the second after it. -/
def secondsUp (t : Instant) : Int :=
  if nanosPerSecond ≤ t.nanos then t.seconds + 1 else t.seconds

/-- Is there an instant so many seconds after this one? -/
def Reaches (t : Instant) (n : Int) : Prop :=
  firstSecond ≤ t.secondsUp + n ∧ t.seconds + n ≤ lastSecond

instance (t : Instant) (n : Int) : Decidable (t.Reaches n) :=
  inferInstanceAs (Decidable (_ ∧ _))

variable {t u : Instant} {n : Int}

/-- Outside of a leap second the range alone decides. -/
theorem reaches_of_plain (h : t.nanos < nanosPerSecond) :
    t.Reaches n ↔ firstSecond ≤ t.seconds + n ∧ t.seconds + n ≤ lastSecond := by
  rw [Reaches, secondsUp, if_neg (Nat.not_le.2 h)]

/-- Seconds of the range and nanoseconds of no leap second are those of an instant. -/
theorem exists_ofParts?_iff {s : Int} {k : Nat} (hk : k < nanosPerSecond) :
    (∃ u, ofParts? s k = some u) ↔ firstSecond ≤ s ∧ s ≤ lastSecond := by
  constructor
  · rintro ⟨u, hu⟩
    obtain ⟨rfl, -⟩ := ofParts?_eq_some_iff.1 hu
    exact u.inRange
  · intro hs
    simp only [nanosPerSecond] at hk
    exact ⟨⟨s, k, hs, by omega, by omega⟩, ofParts?_eq_some_iff.2 ⟨rfl, rfl⟩⟩

/-! ### Adding whole seconds -/

/-- A sum with whole seconds. Those of a leap second are counted from where it is left. -/
theorem add?_ofSeconds (t : Instant) (n : Int) :
    t.add? (.ofSeconds n) =
      if nanosPerSecond ≤ t.nanos then
        if 0 < n then ofParts? (t.seconds + n) (t.nanos - nanosPerSecond)
        else if n < 0 then ofParts? (t.seconds + 1 + n) (t.nanos - nanosPerSecond)
        else some t
      else ofParts? (t.seconds + n) t.nanos := by
  have hwhole : (Span.ofSeconds n).tdiv 1000000000 = n := Int.mul_tdiv_cancel n (by decide)
  have hpart : (Span.ofSeconds n).tmod 1000000000 = 0 := Int.mul_tmod_left n 1000000000
  have hnanos := t.nanos_lt
  -- There is nothing to carry: the nanoseconds are those of a second already.
  have hsettle (s : Int) (k : Nat) (hk : k < 1000000000) (m : Int) (hm : m = k) :
      add?.settle s m = ofParts? s k := by
    rw [add?.settle, if_neg (by omega), if_neg (by omega), hm, Int.toNat_natCast]
  rw [add?, hwhole, hpart]
  by_cases hleap : 1000000000 ≤ t.nanos
  · have hleft : t.nanos - nanosPerSecond < 1000000000 := by
      rw [nanosPerSecond]
      omega
    have hback : (t.nanos : Int) - 1000000000 + 0 = (t.nanos - nanosPerSecond : Nat) := by
      rw [nanosPerSecond]
      omega
    rw [if_pos hleap, if_pos (show nanosPerSecond ≤ t.nanos from hleap)]
    rcases Int.lt_trichotomy n 0 with hn | rfl | hn
    · rw [if_neg (by omega), if_pos hn, if_neg (by omega), if_pos hn, hsettle _ _ hleft _ hback]
    · rw [if_neg (by omega), if_neg (Int.lt_irrefl 0), if_neg (Int.lt_irrefl 0),
        if_neg (Int.lt_irrefl 0), Int.add_zero, Int.toNat_natCast, ofParts?_self]
    · rw [if_pos (.inl hn), if_pos hn, hsettle _ _ hleft _ hback]
  · rw [if_neg hleap, if_neg (show ¬ nanosPerSecond ≤ t.nanos from hleap),
      hsettle _ _ (Nat.not_le.1 hleap) _ (Int.add_zero _)]

/-- **There is an instant so many seconds later exactly if it is reached.** -/
theorem exists_add?_iff : (∃ u, t.add? (.ofSeconds n) = some u) ↔ t.Reaches n := by
  have hrange := t.inRange
  have hnanos := t.nanos_lt
  have hleft : nanosPerSecond ≤ t.nanos → t.nanos - nanosPerSecond < nanosPerSecond := by
    simp only [nanosPerSecond]
    omega
  rw [add?_ofSeconds]
  split
  · rename_i hleap
    rw [Reaches, secondsUp, if_pos hleap]
    split
    · rw [exists_ofParts?_iff (hleft hleap), firstSecond, lastSecond]
      omega
    · split
      · rw [exists_ofParts?_iff (hleft hleap), firstSecond, lastSecond]
        omega
      · have hself : ∃ u, some t = some u := ⟨t, rfl⟩
        simp only [hself, firstSecond, lastSecond, true_iff]
        omega
  · rename_i hplain
    rw [exists_ofParts?_iff (Nat.not_le.1 hplain), reaches_of_plain (Nat.not_le.1 hplain)]

/-- The seconds of a sum, where a leap second counts as the second after it. A leap second that is
left forwards counts as the second before it. -/
theorem secondsUp_of_add? (h : t.add? (.ofSeconds n) = some u) :
    u.secondsUp = t.secondsUp + n ∨
      nanosPerSecond ≤ t.nanos ∧ 0 < n ∧ u.secondsUp = t.seconds + n := by
  have hnanos := t.nanos_lt
  -- Of the parts of a second only those of the second itself count.
  have hplain {s : Int} {k : Nat} (hk : k < nanosPerSecond) (h : ofParts? s k = some u) :
      u.secondsUp = s := by
    obtain ⟨rfl, rfl⟩ := ofParts?_eq_some_iff.1 h
    exact if_neg (Nat.not_le.2 hk)
  rw [add?_ofSeconds] at h
  split at h
  · rename_i hleap
    have hleft : t.nanos - nanosPerSecond < nanosPerSecond := by
      rw [nanosPerSecond] at *
      omega
    have hup : t.secondsUp = t.seconds + 1 := if_pos hleap
    split at h
    · rename_i hn
      exact .inr ⟨hleap, hn, hplain hleft h⟩
    · split at h
      · exact .inl ((hplain hleft h).trans (by rw [hup]))
      · rename_i hle hge
        cases h
        exact .inl (by omega)
  · rename_i hleap
    have hup : t.secondsUp = t.seconds := if_neg hleap
    exact .inl ((hplain (Nat.not_le.1 hleap) h).trans (by rw [hup]))

/-- Is there an instant a minute before the one that is so many seconds later? A leap second has the
minute that it ends before it. -/
theorem reaches_minute_before (h : t.add? (.ofSeconds n) = some u) :
    u.Reaches (-60) ↔ firstSecond + 60 ≤ t.secondsUp + n := by
  have hfirst : firstSecond % 60 = 0 := by decide
  have hup : t.secondsUp = if nanosPerSecond ≤ t.nanos then t.seconds + 1 else t.seconds := rfl
  have hrange : firstSecond ≤ t.seconds ∧ u.seconds ≤ lastSecond := ⟨t.inRange.1, u.inRange.2⟩
  rw [Reaches]
  rcases secondsUp_of_add? h with hsum | ⟨hleap, hn, hsum⟩
  · rw [hsum]
    omega
  · have hlast := t.leap hleap
    rw [hsum, hup, if_pos hleap]
    omega

/-- A span that reaches an instant is not too long. -/
theorem Reaches.checked (h : t.Reaches n) : Span.checked n = .ok (.ofSeconds n) := by
  have hrange := t.inRange
  have hup : t.secondsUp ≤ t.seconds + 1 := by
    rw [secondsUp]
    split <;> omega
  obtain ⟨hfirst, hlast⟩ := h
  rw [firstSecond] at hfirst
  rw [lastSecond] at hlast
  have hmax : Span.maxSeconds = 9223372036854775 := by decide
  rw [Span.checked, hmax, if_pos (by omega)]

/-- So the length of a span never decides whether there is a sum. -/
theorem checked_bind_add? {α : Type} (t : Instant) (n : Int) (f : Instant → Except Overflow α) :
    (do f (← Overflow.check (t.add? (← Span.checked n)))) =
      (do f (← Overflow.check (t.add? (.ofSeconds n)))) := by
  by_cases h : t.Reaches n
  · rw [h.checked]
    rfl
  · have hnone : t.add? (.ofSeconds n) = none :=
      Option.eq_none_iff_forall_ne_some.2 fun u hu ↦ h (exists_add?_iff.1 ⟨u, hu⟩)
    rw [Span.checked]
    split
    · rfl
    · rw [hnone]
      rfl

end Instant

end AuditFeed
