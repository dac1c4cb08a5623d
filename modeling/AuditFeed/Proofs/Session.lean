import AuditFeed.Session

/-!
# Reasoning about calls

A call is a function from sessions to outcomes. What is proved of calls is said by two judgements,
`Returns` and `Fails`, each with the session that is left; a call that overflows does neither, and
one that does either `Ends`. There is one rule for each way in which calls are put together, so no
proof has to look inside of the transformers that a call is made of.

## Equations and judgements

Each way to put calls together has an equation for `outcome` first, and the rules for the judgements
are read off it:

* `outcome_bind` is the one that all sequences rest on. It is stated as a match on the outcome of
  the first call, so a proof that knows this outcome rewrites with it and goes on with the second
  call.
* `returns_bind` and `fails_bind` take a sequence apart without any outcome at hand. A sequence
  returns only if both calls do; it fails where either does, and the two cases of `fails_bind` tell
  which.
* The rules for single steps are equivalences and tagged for `simp`, so a sequence of `get`, `pure`
  and `throw` is opened by `simp` with `returns_bind`.

## Calls without an outcome

An overflow is not an error of a call: nothing catches it, and it leaves no session. So `Returns`
and `Fails` are silent about it on purpose, and that a call does not overflow is said by `Ends`.
Only `checked` may not end (`ends_checked`); a sequence ends
if its second call does for whatever the first one returns (`ends_bind`).

`Ends` is decidable, since a call is run to see it. The other two are not said to be: sessions hold
a state of the other side, of which nothing is known.
-/

namespace AuditFeed.Call

variable {ω ε ε' α β : Type} {c : Call ω ε α} {s t : Session ω}

/-- The outcome of a call: how it ends and the session that it leaves. -/
def outcome (c : Call ω ε α) (s : Session ω) : Except Overflow (Except ε α × Session ω) :=
  c.run.run s

/-- From `s` the call returns `a` and leaves `t`. -/
def Returns (c : Call ω ε α) (s : Session ω) (a : α) (t : Session ω) : Prop :=
  c.outcome s = .ok (.ok a, t)

/-- From `s` the call fails with `e` and leaves `t`. -/
def Fails (c : Call ω ε α) (s : Session ω) (e : ε) (t : Session ω) : Prop :=
  c.outcome s = .ok (.error e, t)

/-- A call ends in one way only. -/
theorem Returns.unique {a b : α} {u : Session ω} (h : c.Returns s a t) (h' : c.Returns s b u) :
    a = b ∧ t = u := by
  have heq := h.symm.trans h'
  cases heq
  exact ⟨rfl, rfl⟩

/-! ### One call after another -/

/-- **One call after another.** The second one starts in the session that the first one leaves, and
only if the first one returns. -/
theorem outcome_bind (c : Call ω ε α) (f : α → Call ω ε β) (s : Session ω) :
    (c >>= f).outcome s =
      match c.outcome s with
      | .ok (.ok a, t) => (f a).outcome t
      | .ok (.error e, t) => .ok (.error e, t)
      | .error o => .error o := by
  show (do
    let (r, t) ← c.outcome s
    (ExceptT.bindCont f r).run t) = _
  cases c.outcome s with
  | error o => rfl
  | ok r =>
    obtain ⟨r, t⟩ := r
    cases r <;> rfl

/-- A sequence returns what its second call does, for a value that the first one returns. -/
theorem returns_bind {f : α → Call ω ε β} {b : β} :
    (c >>= f).Returns s b t ↔ ∃ a u, c.Returns s a u ∧ (f a).Returns u b t := by
  simp only [Returns, outcome_bind]
  constructor
  · intro h
    split at h
    · rename_i a u hc
      exact ⟨a, u, hc, h⟩
    · cases h
    · cases h
  · rintro ⟨a, u, hc, h⟩
    simp only [hc, h]

/-- A sequence fails in one of its calls. -/
theorem fails_bind {f : α → Call ω ε β} {e : ε} :
    (c >>= f).Fails s e t ↔
      c.Fails s e t ∨ ∃ a u, c.Returns s a u ∧ (f a).Fails u e t := by
  simp only [Returns, Fails, outcome_bind]
  constructor
  · intro h
    split at h
    · rename_i a u hc
      exact .inr ⟨a, u, hc, h⟩
    · rename_i e' u hc
      cases h
      exact .inl hc
    · cases h
  · rintro (hc | ⟨a, u, hc, h⟩)
    · simp only [hc]
    · simp only [hc, h]

/-! ### Single steps -/

/-- A value is returned without a step. -/
theorem outcome_pure (a : α) (s : Session ω) :
    (pure a : Call ω ε α).outcome s = .ok (.ok a, s) := rfl

/-- An error is thrown without a step. -/
theorem outcome_throw (e : ε) (s : Session ω) :
    (throw e : Call ω ε α).outcome s = .ok (.error e, s) := rfl

/-- The session is read, and left as it is. -/
theorem outcome_get (s : Session ω) :
    (get : Call ω ε (Session ω)).outcome s = .ok (.ok s, s) := rfl

/-- The session is changed, and nothing can go wrong with that. -/
theorem outcome_modify (f : Session ω → Session ω) (s : Session ω) :
    (modify f : Call ω ε PUnit).outcome s = .ok (.ok ⟨⟩, f s) := rfl

theorem outcome_ofExcept (a : Except ε α) (s : Session ω) :
    (ofExcept a : Call ω ε α).outcome s = .ok (a, s) := rfl

/-- A check that leaves the range of times has no outcome, and any other one leaves the session
alone. -/
theorem outcome_checked (a : Except Overflow α) (s : Session ω) :
    (checked a : Call ω ε α).outcome s = a.map fun a ↦ (.ok a, s) := by
  cases a <;> rfl

/-- Another error in the place of a call's own leaves the session to it. -/
theorem outcome_mapError (f : ε → ε') (c : Call ω ε α) (s : Session ω) :
    (c.mapError f).outcome s = (c.outcome s).map fun r ↦ (r.1.mapError f, r.2) := by
  show (do
    let (r, t) ← c.outcome s
    _) = _
  cases c.outcome s with
  | error o => rfl
  | ok r =>
    obtain ⟨r, t⟩ := r
    cases r <;> rfl

/-- An attempt turns both ways to end into values. It does not catch an overflow. -/
theorem outcome_attempt (c : Call ω ε α) (s : Session ω) :
    (c.attempt : Call ω ε' (Except ε α)).outcome s = (c.outcome s).map fun r ↦ (.ok r.1, r.2) := by
  show (do
    let (r, t) ← c.outcome s
    _) = _
  cases c.outcome s with
  | error o => rfl
  | ok r => rfl

@[simp] theorem returns_pure {a b : α} :
    (pure a : Call ω ε α).Returns s b t ↔ a = b ∧ s = t := by
  simp [Returns, outcome_pure]

@[simp] theorem fails_pure {a : α} {e : ε} : ¬ (pure a : Call ω ε α).Fails s e t := by
  simp [Fails, outcome_pure]

@[simp] theorem returns_throw {e : ε} {a : α} : ¬ (throw e : Call ω ε α).Returns s a t := by
  simp [Returns, outcome_throw]

@[simp] theorem fails_throw {e e' : ε} :
    (throw e : Call ω ε α).Fails s e' t ↔ e = e' ∧ s = t := by
  simp [Fails, outcome_throw]

@[simp] theorem returns_get {u : Session ω} :
    (get : Call ω ε (Session ω)).Returns s u t ↔ s = u ∧ s = t := by
  simp [Returns, outcome_get]

@[simp] theorem fails_get {e : ε} : ¬ (get : Call ω ε (Session ω)).Fails s e t := by
  simp [Fails, outcome_get]

@[simp] theorem fails_checked {a : Except Overflow α} {e : ε} :
    ¬ (checked a : Call ω ε α).Fails s e t := by
  cases a <;> simp [Fails, outcome_checked, Except.map]

@[simp] theorem returns_checked {a : Except Overflow α} {b : α} :
    (checked a : Call ω ε α).Returns s b t ↔ a = .ok b ∧ s = t := by
  cases a <;> simp [Returns, outcome_checked, Except.map]

@[simp] theorem returns_ofExcept {r : Except ε α} {a : α} :
    (ofExcept r : Call ω ε α).Returns s a t ↔ r = .ok a ∧ s = t := by
  simp [Returns, outcome_ofExcept]

@[simp] theorem fails_ofExcept {r : Except ε α} {e : ε} :
    (ofExcept r : Call ω ε α).Fails s e t ↔ r = .error e ∧ s = t := by
  simp [Fails, outcome_ofExcept]

/-- Another error in the place of a call's own does not change what it returns. -/
@[simp] theorem returns_mapError {f : ε → ε'} {a : α} :
    (c.mapError f).Returns s a t ↔ c.Returns s a t := by
  rw [Returns, Returns, outcome_mapError]
  constructor
  · intro h
    rcases hc : c.outcome s with o | ⟨e | b, u⟩ <;> rw [hc] at h <;> cases h
    rfl
  · intro hc
    rw [hc]
    rfl

/-- The error is the one that the call itself fails with, changed. -/
@[simp] theorem fails_mapError {f : ε → ε'} {e' : ε'} :
    (c.mapError f).Fails s e' t ↔ ∃ e, f e = e' ∧ c.Fails s e t := by
  simp only [Fails, outcome_mapError]
  constructor
  · intro h
    rcases hc : c.outcome s with o | ⟨e | b, u⟩ <;> rw [hc] at h <;> cases h
    exact ⟨e, rfl, rfl⟩
  · rintro ⟨e, rfl, hc⟩
    rw [hc]
    rfl

/-- An attempt returns how the call ends. -/
theorem returns_attempt {r : Except ε α} :
    (c.attempt : Call ω ε' (Except ε α)).Returns s r t ↔ c.outcome s = .ok (r, t) := by
  rw [Returns, outcome_attempt]
  rcases c.outcome s with o | ⟨r', u⟩ <;> simp [Except.map]

/-- An attempt never fails. -/
@[simp] theorem fails_attempt {e' : ε'} :
    ¬ (c.attempt : Call ω ε' (Except ε α)).Fails s e' t := by
  rw [Fails, outcome_attempt]
  rcases c.outcome s with o | ⟨r', u⟩ <;> simp [Except.map]

/-! ### Calls that end -/

/-- From `s` the call ends, with a value or an error. -/
def Ends (c : Call ω ε α) (s : Session ω) : Prop :=
  ∃ r t, c.outcome s = .ok (r, t)

instance (c : Call ω ε α) (s : Session ω) : Decidable (c.Ends s) :=
  decidable_of_iff ((c.outcome s).toOption.isSome = true) <| by
    rw [Ends]
    rcases c.outcome s with o | ⟨r, t⟩ <;> simp [Except.toOption]

/-- Of two calls the second one has to end for whatever the first one returns. -/
theorem ends_bind {f : α → Call ω ε β} :
    (c >>= f).Ends s ↔ c.Ends s ∧ ∀ a t, c.Returns s a t → (f a).Ends t := by
  simp only [Ends, Returns, outcome_bind]
  rcases hc : c.outcome s with o | ⟨e | a, u⟩
  · simp
  · simp
  · simp only [Except.ok.injEq, Prod.mk.injEq]
    constructor
    · rintro h
      refine ⟨⟨_, _, rfl, rfl⟩, ?_⟩
      rintro a t ⟨rfl, rfl⟩
      exact h
    · rintro ⟨-, h⟩
      exact h a u ⟨rfl, rfl⟩

@[simp] theorem ends_pure (a : α) : (pure a : Call ω ε α).Ends s :=
  ⟨_, _, outcome_pure a s⟩

@[simp] theorem ends_throw (e : ε) : (throw e : Call ω ε α).Ends s :=
  ⟨_, _, outcome_throw e s⟩

@[simp] theorem ends_get : (get : Call ω ε (Session ω)).Ends s :=
  ⟨_, _, outcome_get s⟩

@[simp] theorem ends_ofExcept (r : Except ε α) : (ofExcept r : Call ω ε α).Ends s :=
  ⟨_, _, outcome_ofExcept r s⟩

/-- A check is the one step that may not end. -/
@[simp] theorem ends_checked {a : Except Overflow α} :
    (checked a : Call ω ε α).Ends s ↔ ∃ b, a = .ok b := by
  cases a with
  | error o => simp [Ends, outcome_checked, Except.map]
  | ok b => simp [Ends, outcome_checked, Except.map]

/-- Which errors a call has is no matter of whether it ends. -/
@[simp] theorem ends_mapError {f : ε → ε'} : (c.mapError f).Ends s ↔ c.Ends s := by
  rw [Ends, Ends, outcome_mapError]
  rcases c.outcome s with o | ⟨r, u⟩ <;> simp [Except.map]

end AuditFeed.Call
