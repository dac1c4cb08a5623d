import AuditFeed.Proofs.Session

/-!
# The same call without cancellation

`Call.Calm P c c'` compares a call with the same call where nobody cancels. The two go in step: the
calm one ends in the same way, with the same value or the same error. The only other thing that can
happen is that the caller has cancelled and that the first call fails with an error of `P`.

## The class of errors is the point

An error that a caller of the call swallows is what could turn a cancellation into a wrong answer.
So each error that is swallowed somewhere must be kept out of `P` up to there, and each step up only
has to say which errors its own part adds. With all errors in `P` the relation would still hold of
every part, and no rule could be had for a call that looks at an error.

That rule is `Calm.attempt_bind`. It asks for two things: from each outcome that both calls have,
what follows has to go in step; and from each error of `P`, which only the first call has, what
follows has to fail in turn. The second is where `P` has to be small.

## Sessions in step

`Session.IsCalm s s'` says that `s'` is `s` without cancellation: the other side, the clock, the
grants and the kept answers are the same. The traces are left out. A calm run goes on where the
other one has ended, so what was done is not the same, and no call looks at it.

Since the other side is the same, so is everything that is heard from it. The caller's patience has
no counterpart: a pause that ends one run goes by in the other.

## The direction

Nothing is said of a calm run that ends where the first one overflows. `Calm` starts from an end of
the first call, which is the one that happens.
-/

namespace AuditFeed

variable {ω : Type}

/-- The second session is the first one without cancellation: neither has the caller cancelled, nor
will it in a pause. What was done so far does not matter. -/
structure Session.IsCalm (s s' : Session ω) : Prop where
  peer : s'.peer = s.peer
  now : s'.now = s.now
  grants : s'.grants = s.grants
  ids : s'.ids = s.ids
  cancelled : s'.cancelled = false
  patience : s'.patience = none

namespace Session.IsCalm

variable {s s' : Session ω}

/-- Whether the caller cancels or not, a calm session stays one. -/
theorem cancel (h : s.IsCalm s') : s.cancel.IsCalm s' := by
  rw [Session.cancel]
  split
  · exact h
  · exact ⟨h.peer, h.now, h.grants, h.ids, h.cancelled, h.patience⟩

/-- What was done does not matter, so what is noted may differ. -/
theorem note (h : s.IsCalm s') (step step' : Step) : (s.note step).IsCalm (s'.note step') :=
  ⟨h.peer, h.now, h.grants, h.ids, h.cancelled, h.patience⟩

/-- What is heard from the other side is the same in both. -/
theorem setPeer (h : s.IsCalm s') (peer : ω) :
    ({ s with peer } : Session ω).IsCalm { s' with peer } :=
  ⟨rfl, h.now, h.grants, h.ids, h.cancelled, h.patience⟩

/-- A pause goes by in a calm session, and in the other one unless the caller cancels in it. -/
theorem pause (h : s.IsCalm s') (length : Duration) :
    (s.pause length).IsCalm (s'.pause length) := by
  have hcalm : s'.pause length = s'.note (.pause length) := by
    rw [Session.pause, h.patience]
  rw [hcalm, Session.pause]
  split
  · exact h.note _ _
  · split
    · exact ⟨h.cancel.peer, h.cancel.now, h.cancel.grants, h.cancel.ids, h.cancelled, h.patience⟩
    · exact ⟨h.peer, h.now, h.grants, h.ids, h.cancelled, h.patience⟩

end Session.IsCalm

/-- Cancelling leaves a session that is cancelled. -/
theorem Session.cancelled_cancel (s : Session ω) : s.cancel.cancelled = true := by
  rw [Session.cancel]
  split
  · assumption
  · rfl

namespace Call

variable {ε ε' α β : Type} {P Q : ε → Prop}

/-- From these two sessions, the second call goes in step with the first, or the caller has
cancelled and the first fails with an error of `P`. -/
def CalmAt (P : ε → Prop) (c c' : Call ω ε α) (s s' : Session ω) : Prop :=
  ∀ r t, c.outcome s = .ok (r, t) →
    (∃ t', c'.outcome s' = .ok (r, t') ∧ t.IsCalm t') ∨
    (∃ e, r = .error e ∧ P e ∧ t.cancelled = true)

/-- The second call is the first one without cancellation, which may put an error of `P` in the
place of an outcome. -/
def Calm (P : ε → Prop) (c c' : Call ω ε α) : Prop :=
  ∀ s s', s.IsCalm s' → CalmAt P c c' s s'

namespace Calm

variable {c c' : Call ω ε α}

/-! ### Rules -/

/-- A larger class of errors says less. -/
theorem mono (h : Calm P c c') (hPQ : ∀ e, P e → Q e) : Calm Q c c' := by
  intro s s' hs r t hc
  rcases h s s' hs r t hc with h | ⟨e, hr, he, ht⟩
  · exact .inl h
  · exact .inr ⟨e, hr, hPQ e he, ht⟩

/-- A value is returned in step, and so is an error. -/
theorem pure (a : α) : Calm P (Pure.pure a : Call ω ε α) (Pure.pure a) := by
  intro s s' hs r t hc
  rw [outcome_pure] at hc
  cases hc
  exact .inl ⟨s', rfl, hs⟩

theorem throw (e : ε) : Calm P (throw e : Call ω ε α) (throw e) := by
  intro s s' hs r t hc
  rw [outcome_throw] at hc
  cases hc
  exact .inl ⟨s', rfl, hs⟩

theorem ofExcept (a : Except ε α) : Calm P (ofExcept a : Call ω ε α) (Call.ofExcept a) := by
  intro s s' hs r t hc
  rw [outcome_ofExcept] at hc
  cases hc
  exact .inl ⟨s', rfl, hs⟩

/-- A check leaves the range of times in both runs or in none of them. -/
theorem checked (a : Except Overflow α) :
    Calm P (Call.checked a : Call ω ε α) (Call.checked a) := by
  intro s s' hs r t hc
  rw [outcome_checked] at hc
  cases a with
  | error o => cases hc
  | ok a =>
    cases hc
    exact .inl ⟨s', outcome_checked _ _, hs⟩

/-- Calls that go in step go in step one after the other. -/
theorem bindAt {s s' : Session ω} {f f' : α → Call ω ε β} (h : CalmAt P c c' s s')
    (hf : ∀ a, Calm P (f a) (f' a)) : CalmAt P (c >>= f) (c' >>= f') s s' := by
  intro r t hc
  rw [outcome_bind] at hc
  cases hs : c.outcome s with
  | error o =>
    rw [hs] at hc
    cases hc
  | ok q =>
    obtain ⟨q, u⟩ := q
    rw [hs] at hc
    rcases h q u hs with ⟨u', hu', hcalm⟩ | ⟨e, rfl, he, hu⟩
    -- In step so far: a value is handed on, and an error ends both.
    · cases q with
      | ok a =>
        rw [outcome_bind, hu']
        exact hf a u u' hcalm r t hc
      | error e =>
        cases hc
        exact .inl ⟨u', by rw [outcome_bind, hu'], hcalm⟩
    · cases hc
      exact .inr ⟨e, rfl, he, hu⟩

/-- **One call after another** goes in step if both do. -/
theorem bind {f f' : α → Call ω ε β} (h : Calm P c c') (hf : ∀ a, Calm P (f a) (f' a)) :
    Calm P (c >>= f) (c' >>= f') :=
  fun s s' hs ↦ bindAt (h s s' hs) hf

/-- What is read of the session has to be in step where the sessions are. -/
theorem get_bind {f f' : Session ω → Call ω ε α}
    (h : ∀ s s', s.IsCalm s' → CalmAt P (f s) (f' s') s s') :
    Calm P (get >>= f) (get >>= f') := by
  intro s s' hs r t hc
  rw [outcome_bind, outcome_get] at hc ⊢
  exact h s s' hs r t hc

/-- A change of the session has to be the same one in both. -/
theorem modify {f f' : Session ω → Session ω} (h : ∀ s s', s.IsCalm s' → (f s).IsCalm (f' s')) :
    Calm P (modify f : Call ω ε PUnit) (modify f') := by
  intro s s' hs r t hc
  rw [outcome_modify] at hc
  cases hc
  exact .inl ⟨f' s', outcome_modify _ _, h s s' hs⟩

/-- Another error in the place of a call's own takes the errors of `P` along. -/
theorem mapError {Q : ε' → Prop} {f : ε → ε'} (h : Calm P c c') (hf : ∀ e, P e → Q (f e)) :
    Calm Q (c.mapError f) (c'.mapError f) := by
  intro s s' hs r t hc
  rw [outcome_mapError] at hc
  cases hq : c.outcome s with
  | error o =>
    rw [hq] at hc
    cases hc
  | ok q =>
    obtain ⟨q, u⟩ := q
    rw [hq] at hc
    cases hc
    rcases h s s' hs q u hq with ⟨u', hu', hcalm⟩ | ⟨e, rfl, he, hu⟩
    · exact .inl ⟨u', by rw [outcome_mapError, hu']; rfl, hcalm⟩
    · exact .inr ⟨f e, rfl, hf e he, hu⟩

/-- **Where an error is looked at.** After an attempt the calls have to go on in step from each
outcome that both of them have; and from each error of `P`, which only the first one has, the caller
having cancelled, it has to fail with an error of `Q`. -/
theorem attempt_bind {Q : ε' → Prop} {f f' : Except ε α → Call ω ε' β} (h : Calm P c c')
    (hf : ∀ r, Calm Q (f r) (f' r))
    (hcancelled : ∀ e s, P e → s.cancelled = true → ∀ r t, (f (.error e)).outcome s = .ok (r, t) →
      ∃ e', r = .error e' ∧ Q e' ∧ t.cancelled = true) :
    Calm Q (c.attempt >>= f) (c'.attempt >>= f') := by
  intro s s' hs r t hc
  rw [outcome_bind, outcome_attempt] at hc
  cases hq : c.outcome s with
  | error o =>
    rw [hq] at hc
    cases hc
  | ok q =>
    obtain ⟨q, u⟩ := q
    rw [hq] at hc
    rcases h s s' hs q u hq with ⟨u', hu', hcalm⟩ | ⟨e, rfl, he, hu⟩
    · rw [outcome_bind, outcome_attempt, hu']
      exact hf q u u' hcalm r t hc
    · exact .inr (hcancelled e u he hu r t hc)

end Calm

end Call

end AuditFeed
