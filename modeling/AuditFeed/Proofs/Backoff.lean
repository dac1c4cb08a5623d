import AuditFeed.Proofs.Duration
import AuditFeed.Retry

/-!
# How long a pause can be

A pause is the base, doubled with each retry up to the sixteenth, and what chance adds to it: whole
milliseconds, and no more than half of it. The bounds hold for every base, retry and draw
(`RetryPolicy.backoff_bounds`).

## Growth

While it doubles, the shortest pause before one retry is twice the one before, and the longest is
one and a half times the shortest: the pauses of two retries never overlap, and this stays true
where they are cut to the longest duration (`RetryPolicy.backoff_mono`). From the sixteenth retry on
nothing is doubled any more, so pauses are of one range there and chance alone tells which is
longer.

## In words

The pause is also computed in words of 32, 64 and 128 bits, as a machine does it. No step of that
leaves its word (`RetryPolicy.backoffWords_eq`). So no policy and no draw can stop a request between
two attempts, and the pause of the model is the one that is computed.

## Main statements

* `RetryPolicy.backoff_mono`: pauses grow.
* `RetryPolicy.backoffWords_eq`: no step leaves its word.
* `RetryPolicy.backoff_bounds`: both, with the bounds.
-/

namespace AuditFeed.RetryPolicy

open Duration (longest)

variable (p : RetryPolicy) (attempt draw : Nat)

/-! ### The bounds -/

/-- The doubled base, cut to the longest duration. -/
theorem nanos_exponential :
    (p.exponential attempt).nanos =
      min (p.base.nanos * Nat.pow 2 (min attempt 16)) longest.nanos :=
  Duration.nanos_mul _ _

/-- What chance adds, in nanoseconds. -/
def jitter : Nat := min draw (p.jitterCeiling attempt) * 1000000

/-- Chance adds half of the pause at most. -/
theorem jitter_le : p.jitter attempt draw ≤ (p.exponential attempt).nanos / 2 := by
  have hceiling : p.jitterCeiling attempt ≤ (p.exponential attempt).nanos / 1000000 / 2 :=
    Nat.min_le_left _ _
  rw [jitter]
  omega

/-- What chance adds is no longer than a duration can be. -/
theorem nanos_ofMillis_jitter :
    (Duration.ofMillis (min draw (p.jitterCeiling attempt))).nanos = p.jitter attempt draw := by
  have hhalf := p.jitter_le attempt draw
  have hlong : (p.exponential attempt).nanos ≤ longest.nanos := by
    rw [nanos_exponential]
    exact Nat.min_le_right _ _
  exact Duration.nanos_ofNanos_of_le (show p.jitter attempt draw ≤ _ by omega)

/-- A pause is the doubled base and what chance adds, cut again. -/
theorem nanos_backoff :
    (p.backoff attempt draw).nanos =
      min ((p.exponential attempt).nanos + p.jitter attempt draw) longest.nanos := by
  rw [backoff, Duration.nanos_add, nanos_ofMillis_jitter]

/-- A pause is at least the doubled base. -/
theorem exponential_le_backoff : p.exponential attempt ≤ p.backoff attempt draw := by
  rw [Duration.le_def, nanos_backoff, nanos_exponential]
  omega

/-- The pause before a later retry is at least twice as long, or the longest duration. -/
theorem double_exponential_le {m n : Nat} (h : m < n) (hn : n ≤ 16) :
    min (2 * (p.exponential m).nanos) longest.nanos ≤ (p.exponential n).nanos := by
  have hpow : Nat.pow 2 m * 2 ≤ Nat.pow 2 n := Nat.pow_le_pow_right Nat.two_pos h
  have hbase : p.base.nanos * Nat.pow 2 m * 2 ≤ p.base.nanos * Nat.pow 2 n := by
    rw [Nat.mul_assoc]
    exact Nat.mul_le_mul_left _ hpow
  rw [nanos_exponential, nanos_exponential, Nat.min_eq_left hn,
    Nat.min_eq_left (Nat.le_trans (Nat.le_of_lt h) hn)]
  omega

/-- **Pauses never overlap**: whatever chance draws, an earlier one is no longer than a later
one. -/
theorem backoff_mono {m n : Nat} (h : m < n) (hn : n ≤ 16) (draw draw' : Nat) :
    p.backoff m draw ≤ p.backoff n draw' := by
  -- The later pause is at least twice the earlier base, and chance adds half of that at most.
  have hdouble := p.double_exponential_le h hn
  have hadded := p.jitter_le m draw
  have hleast := p.exponential_le_backoff n draw'
  rw [Duration.le_def] at hleast ⊢
  rw [nanos_backoff p m]
  omega

/-! ### In words -/

/-- The pause before retry `attempt` where chance drew `draw`, word by word: a shift within 32 bits,
milliseconds in 128 whose half is cut to 64, and a draw in 64. -/
def backoffWords : Except Overflow Duration := do
  let shift ← Word.hold 32 (min attempt 16)
  let factor ← Word.hold Word.limit32 (1 <<< shift)
  let pause ← p.base.mulWords factor
  let millis ← pause.millisWords
  let drawn ← Word.hold Word.limit64 (min draw (min (millis / 2) (Word.limit64 - 1)))
  pause.addWords (← Duration.ofMillisWords drawn)

/-- **No step leaves its word**, and the words hold the pause. -/
theorem backoffWords_eq : p.backoffWords attempt draw = .ok (p.backoff attempt draw) := by
  have hshift : min attempt 16 < 32 := by omega
  have hfactor : 1 <<< min attempt 16 < Word.limit32 := by
    rw [Nat.one_shiftLeft]
    exact Nat.pow_lt_pow_right (by decide) hshift
  have hpause : p.base.mulWords (1 <<< min attempt 16) = pure (p.exponential attempt) := by
    rw [Duration.mulWords_eq _ hfactor, Nat.one_shiftLeft]
    rfl
  have hdrawn : min draw (min ((p.exponential attempt).millis / 2) (Word.limit64 - 1)) <
      Word.limit64 := by
    rw [Word.limit64]
    omega
  rw [backoffWords, Word.hold_bind hshift, Word.hold_bind hfactor, hpause, pure_bind,
    Duration.millisWords_eq, pure_bind, Word.hold_bind hdrawn, Duration.ofMillisWords_eq,
    pure_bind, Duration.addWords_eq]
  rfl

/-! ### The whole -/

/-- **The bounds of a pause**, for every base, retry and draw.

* Computing it stops nowhere, since no number on the way leaves its word.
* It is at least the base times `2 ^ min attempt 16` and at most one and a half times that, each cut
  to the longest duration.
* Up to the sixteenth retry, an earlier pause is never longer than a later one. -/
theorem backoff_bounds (p : RetryPolicy) :
    (∀ attempt draw,
      p.backoffWords attempt draw = .ok (p.backoff attempt draw) ∧
        ∃ least : Duration,
          least.nanos = min (p.base.nanos * Nat.pow 2 (min attempt 16)) longest.nanos ∧
            least ≤ p.backoff attempt draw ∧
            (p.backoff attempt draw).nanos ≤ min (least.nanos + least.nanos / 2) longest.nanos) ∧
      ∀ m n, m < n → n ≤ 16 → ∀ draw draw', p.backoff m draw ≤ p.backoff n draw' := by
  refine ⟨fun attempt draw ↦ ⟨p.backoffWords_eq attempt draw, p.exponential attempt,
    p.nanos_exponential attempt, p.exponential_le_backoff attempt draw, ?_⟩,
    fun m n h hn ↦ p.backoff_mono h hn⟩
  have hadded := p.jitter_le attempt draw
  rw [nanos_backoff]
  omega

end AuditFeed.RetryPolicy
