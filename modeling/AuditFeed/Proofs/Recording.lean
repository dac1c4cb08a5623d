import AuditFeed.Proofs.Session

/-!
# Calls with a record

What a call asks of the other side cannot be read off its result. `Call.recorded` is the same call,
which also writes an entry behind a list, and `Session.beside` puts that list beside the other side,
where nothing but the record looks at it.

The type of the entries is free. A token source writes down the scopes that it is asked for, a
directory the keys, and a provider all of its contacts, and they share what is proved here: an entry
is told by the parameters of the call and by its result, so there is one rule for all of them
(`Call.outcome_recorded`).

## What a record shows

`Shows c c' s record` says of a call and its recorded form that from `s` they do the same, and that
`record` is what is written down. It holds for every record before it, so the entries of one call
are put behind those of the call before (`Shows.bind`). Two rules concern the end of a record:

* a call that does not return ends it (`Shows.bind_of_not_returns`), so what an error leaves unsaid
  is seen from the record;
* what follows in silence leaves it as it is (`Shows.bind_of_silent`).

A call that overflows leaves no session, and so no record either. `Shows` then says only that both
forms overflow.

A history of many calls is a list that grows in the same way, call by call. Each of its entries was
the last one once, and a statement about it is proved there (`append_cons_eq_concat`).

## The record is no part of the other side

A record is never read: the recorded form of a source is asked with the other side alone. So for
every source there is one that is recorded and answers alike, and a statement about the record is
one about the source itself. What a record holds is told apart from the session that it stands
beside (`Session.beside_inj`).
-/

namespace AuditFeed

variable {ω ε ε' α β ρ : Type} {s t : Session ω}

/-! ### Records that grow -/

/-- An entry of a record that has grown by one is the last one, or one of the record before. -/
theorem append_cons_eq_concat {before after past : List ρ} {entry last : ρ}
    (h : before ++ entry :: after = past ++ [last]) :
    (before = past ∧ entry = last) ∨ ∃ rest, before ++ entry :: rest = past := by
  rcases List.eq_nil_or_concat after with rfl | ⟨rest, b, rfl⟩
  · obtain ⟨hpast, hlast⟩ := List.append_inj' h rfl
    exact .inl ⟨hpast, List.singleton_inj.1 hlast⟩
  · rw [List.concat_eq_append, ← List.cons_append, ← List.append_assoc] at h
    exact .inr ⟨rest, (List.append_inj' h rfl).1⟩

/-! ### Sessions with a record -/

namespace Session

/-- The same session with another other side. -/
def withPeer {ω' : Type} (s : Session ω) (peer : ω') : Session ω' :=
  ⟨peer, s.now, s.cancelled, s.patience, s.trace, s.grants, s.ids⟩

/-- A session that has a record beside it. -/
def beside (s : Session ω) (record : List ρ) : Session (ω × List ρ) :=
  s.withPeer (s.peer, record)

/-- A record can be told from the session that it stands beside. -/
theorem beside_inj {record record' : List ρ} (h : s.beside record = t.beside record') :
    s = t ∧ record = record' := by
  obtain ⟨_, _, _, _, _, _, _⟩ := s
  obtain ⟨_, _, _, _, _, _, _⟩ := t
  simp only [beside, withPeer, mk.injEq, Prod.mk.injEq] at h
  obtain ⟨⟨rfl, rfl⟩, rfl, rfl, rfl, rfl, rfl, rfl⟩ := h
  exact ⟨rfl, rfl⟩

/-- Cancelling is nothing that a record is about. -/
theorem cancel_beside (s : Session ω) (record : List ρ) :
    (s.beside record).cancel = s.cancel.beside record := by
  have hcancelled : (s.beside record).cancelled = s.cancelled := rfl
  rw [cancel, cancel, hcancelled]
  split <;> rfl

/-- Neither is a pause, whether it goes by or the caller runs out of patience in it. -/
theorem pause_beside (s : Session ω) (record : List ρ) (length : Duration) :
    (s.beside record).pause length = (s.pause length).beside record := by
  have hpatience : (s.beside record).patience = s.patience := rfl
  rw [pause, pause, hpatience]
  split
  · rfl
  · split
    · exact cancel_beside s record
    · rfl

end Session

/-! ### Recorded calls -/

namespace Call

variable {c : Call ω ε α} {c' : Call (ω × List ρ) ε α} {entry : Except ε α → ρ}
  {record later : List ρ}

/-- The same call, which also writes down an entry about its result. -/
def recorded (c : Call ω ε α) (entry : Except ε α → ρ) : Call (ω × List ρ) ε α :=
  ExceptT.mk fun s ↦ do
    let (r, t) ← c.outcome (s.withPeer s.peer.1)
    return (r, t.beside (s.peer.2 ++ [entry r]))

/-- **A recorded call does what the call does**, and its entry is put behind the record. -/
theorem outcome_recorded (c : Call ω ε α) (entry : Except ε α → ρ) (s : Session ω)
    (past : List ρ) :
    (c.recorded entry).outcome (s.beside past) =
      (c.outcome s).map fun x ↦ (x.1, x.2.beside (past ++ [entry x.1])) := by
  show (c.outcome s >>= fun x ↦ pure (x.1, x.2.beside (past ++ [entry x.1]))) = _
  rcases c.outcome s with o | x <;> rfl

/-- What a recorded call leaves is what the call leaves, with the entry. -/
theorem outcome_recorded_iff {r : Except ε α} {past : List ρ} {t' : Session (ω × List ρ)} :
    (c.recorded entry).outcome (s.beside past) = .ok (r, t') ↔
      ∃ t, t' = t.beside (past ++ [entry r]) ∧ c.outcome s = .ok (r, t) := by
  rw [outcome_recorded]
  rcases c.outcome s with o | ⟨q, t⟩
  · simp [Except.map]
  · simp only [Except.map, Except.ok.injEq, Prod.mk.injEq]
    constructor
    · rintro ⟨rfl, rfl⟩
      exact ⟨t, rfl, rfl, rfl⟩
    · rintro ⟨_, rfl, rfl, rfl⟩
      exact ⟨rfl, rfl⟩

/-- From `s` the second call does what the first one does, and writes down `record`. -/
def Shows (c : Call ω ε α) (c' : Call (ω × List ρ) ε α) (s : Session ω) (record : List ρ) : Prop :=
  ∀ past, c'.outcome (s.beside past) =
    (c.outcome s).map fun x ↦ (x.1, x.2.beside (past ++ record))

namespace Shows

/-- A recorded call that ends shows its entry. -/
theorem of_outcome {r : Except ε α} (h : c.outcome s = .ok (r, t)) :
    Shows c (c.recorded entry) s [entry r] := by
  intro past
  rw [outcome_recorded, h]
  rfl

/-- One that overflows shows nothing. -/
theorem of_overflow {o : Overflow} (h : c.outcome s = .error o) :
    Shows c (c.recorded entry) s [] := by
  intro past
  rw [outcome_recorded, h]
  rfl

theorem throw (e : ε) (s : Session ω) :
    Shows (MonadExcept.throw e : Call ω ε α) (MonadExcept.throw e) s ([] : List ρ) := by
  intro past
  rw [List.append_nil]
  rfl

/-- One call after another. -/
theorem bind {f : α → Call ω ε β} {f' : α → Call (ω × List ρ) ε β} {a : α}
    (h : Shows c c' s record) (ha : c.Returns s a t) (hf : Shows (f a) (f' a) t later) :
    Shows (c >>= f) (c' >>= f') s (record ++ later) := by
  intro past
  rw [Returns] at ha
  rw [outcome_bind, outcome_bind, h past, ha, ← List.append_assoc]
  exact hf _

/-- Nothing comes after a call that does not return. -/
theorem bind_of_not_returns {f : α → Call ω ε β} {f' : α → Call (ω × List ρ) ε β}
    (h : Shows c c' s record) (hc : ∀ a t, ¬ c.Returns s a t) :
    Shows (c >>= f) (c' >>= f') s record := by
  intro past
  rw [outcome_bind, outcome_bind, h past]
  rcases hs : c.outcome s with o | ⟨e | a, t⟩
  · rfl
  · rfl
  · exact absurd hs (hc a t)

/-- What comes after a call may write nothing down. -/
theorem bind_of_silent {f : α → Call ω ε β} {f' : α → Call (ω × List ρ) ε β}
    (h : Shows c c' s record) (hf : ∀ a t, Shows (f a) (f' a) t []) :
    Shows (c >>= f) (c' >>= f') s record := by
  rcases hs : c.outcome s with o | ⟨e | a, t⟩
  · exact h.bind_of_not_returns fun a t ht ↦ by cases hs.symm.trans ht
  · exact h.bind_of_not_returns fun a t ht ↦ by cases hs.symm.trans ht
  · have hboth := h.bind hs (hf a t)
    rwa [List.append_nil] at hboth

/-- Another error in the place of a call's own is not written down. -/
theorem mapError (f : ε → ε') (h : Shows c c' s record) :
    Shows (c.mapError f) (c'.mapError f) s record := by
  intro past
  rw [outcome_mapError, outcome_mapError, h past]
  rcases c.outcome s with o | x <;> rfl

end Shows

end Call

end AuditFeed
