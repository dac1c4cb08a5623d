import AuditFeed.Proofs.Supply
import Mathlib.Tactic.ByContra

/-!
# The course of a request that is sent again and again

How often a request is sent, what comes out of it and what goes on in between depends on four things
that change from attempt to attempt: how the attempt ends, how many retries are left, whether the
body can be read again, and whether the caller has cancelled, which can happen at three places.

## The environment without a loop

What the other side holds in store is laid out first. `Network.before` is the session in which
attempt `i` is made if all before it are made, and `Network.Tries` says when it is made: the budget
allows it, nobody has cancelled by then, and every earlier attempt failed in a way that lets the
request be sent again. `Network.Ends` lists the ways in which the whole can end.

Neither mentions the loop, so they can be read as what sending is meant to be. The number of
attempts is part of `Ends`, and no attempt is counted that was not made: a caller who has cancelled
at the start gets no attempt, and one who cancels in a pause gets none after it.

## The loop

It is opened by two facts. An attempt that is made is reached (`Tries.outcome_send`, by induction on
its number), and it is the last one or the next one is made as well (`Tries.ends_or_succ`). The
budget makes an end of that (`exists_ends`).

`Ends` is then seen to be exact in both directions. However sending can end, it ends so
(`Ends.outcome_send`); and as sending has one outcome only, so has `Ends`. That attempts are exactly
those before the end comes from `Ends.not_tries`, one case for each way to end.

## The trace

`rounds` and `course` are the same attempts with and without the pause after the last one. A pause
is drawn for the number of the attempt before it, so `rounds` keeps the number
(`Tries.trace_before`, `Ends.trace_eq`).

## Main statements

* `Network.send_course`: that sending ends, how, which attempts are made, and what is noted.
-/

namespace AuditFeed

open Call

variable {ω : Type}

/-! ### Pauses -/

/-- A pause that goes by is noted, and the caller has not cancelled before it. -/
theorem Session.trace_pause_of_live {s : Session ω} {length : Duration}
    (h : (s.pause length).cancelled = false) :
    s.cancelled = false ∧ (s.pause length).trace = s.trace ++ [.pause length] := by
  rw [Session.pause] at h ⊢
  split
  · rename_i hp
    simp only [hp] at h
    exact ⟨h, rfl⟩
  · rename_i left hp
    simp only [hp] at h
    split
    · rename_i hout
      rw [if_pos hout, Session.cancelled_cancel] at h
      cases h
    · rename_i hleft
      rw [if_neg hleft] at h
      exact ⟨h, rfl⟩

/-- A cancellation is noted once. -/
theorem Session.trace_cancel_of_live {s : Session ω} (h : s.cancelled = false) :
    s.cancel.trace = s.trace ++ [.cancel] := by
  rw [Session.cancel, h]
  rfl

/-- A pause in which the caller cancels leaves nothing but the cancellation. -/
theorem Session.trace_pause_of_cancelled {s : Session ω} {length : Duration}
    (hs : s.cancelled = false) (h : (s.pause length).cancelled = true) :
    (s.pause length).trace = s.trace ++ [.cancel] := by
  rw [Session.pause] at h ⊢
  split
  · rename_i hp
    simp only [hp] at h
    exact absurd (hs.symm.trans h) Bool.false_ne_true
  · rename_i left hp
    simp only [hp] at h
    split
    · exact Session.trace_cancel_of_live hs
    · rename_i hleft
      rw [if_neg hleft] at h
      exact absurd (hs.symm.trans h) Bool.false_ne_true

namespace Network

variable (net : Network ω) (policy : RetryPolicy) (request : Http.Request)

/-! ### What the environment holds in store -/

/-- What is heard of a request that is sent in `s`: how it ends, or nothing if the caller cancels
before that. -/
def heard (s : Session ω) : Option (Except TransportError Http.Response) :=
  let x := (net.exchange request s.peer).1
  if x.interruption = some .inFlight then none else some x.outcome

/-- The session after a request was sent, whatever becomes of it. -/
def sent (s : Session ω) : Session ω :=
  let t := { s with peer := (net.exchange request s.peer).2 }.note (.attempt request)
  if (net.exchange request s.peer).1.interruption.isSome then t.cancel else t

/-- The pause before retry `i` from `s` on, as it is drawn. -/
def delay (i : Nat) (s : Session ω) : Duration :=
  policy.backoff i (net.draw s.peer).1

/-- The session after that pause, or after the caller cancelled in it. -/
def rested (i : Nat) (s : Session ω) : Session ω :=
  { s with peer := (net.draw s.peer).2 }.pause (net.delay policy i s)

/-- The session before attempt `i`, if all attempts before it are made from `s` on. -/
def before (s : Session ω) : Nat → Session ω
  | 0 => s
  | i + 1 => net.rested policy i (net.sent request (before s i))

/-- A failure that lets the request be sent again: it is transient, and the body can be replayed. -/
def IsSurmountable (e : TransportError) : Prop :=
  e.isTransient = true ∧ request.body.isReplayable = true

/-- **When attempt `i` is made**: the budget allows it, nobody has cancelled by then, and each
attempt before it failed in a way that lets the request be sent again. -/
def Tries (s : Session ω) (i : Nat) : Prop :=
  i ≤ policy.maxRetries ∧ (net.before policy request s i).cancelled = false ∧
    ∀ j < i, ∃ e, net.heard request (net.before policy request s j) = some (.error e) ∧
      IsSurmountable request e

/-- **How sending a request ends**: with how many attempts, with which result, and in which
session. -/
inductive Ends (s : Session ω) : Nat → Except RequestError Http.Response → Session ω → Prop
  /-- The caller had cancelled at the start. -/
  | atEntry (h : s.cancelled = true) : Ends s 0 (.error .cancelled) s
  /-- A response of any status is the result. -/
  | response {i : Nat} {r : Http.Response} (h : net.Tries policy request s i)
      (hr : net.heard request (net.before policy request s i) = some (.ok r)) :
      Ends s (i + 1) (.ok r) (net.sent request (net.before policy request s i))
  /-- A failure is the result if the request may not be sent again, or not once more. -/
  | failure {i : Nat} {e : TransportError} (h : net.Tries policy request s i)
      (he : net.heard request (net.before policy request s i) = some (.error e))
      (hlast : i = policy.maxRetries ∨ ¬ IsSurmountable request e) :
      Ends s (i + 1) (.error (.transport e)) (net.sent request (net.before policy request s i))
  /-- The caller cancels while the request is under way. -/
  | inFlight {i : Nat} (h : net.Tries policy request s i)
      (hr : net.heard request (net.before policy request s i) = none) :
      Ends s (i + 1) (.error .cancelled) (net.sent request (net.before policy request s i))
  /-- The caller cancels together with a failure that would be followed by a retry, so the pause
  does not begin. -/
  | beforePause {i : Nat} {e : TransportError} (h : net.Tries policy request s i)
      (he : net.heard request (net.before policy request s i) = some (.error e))
      (hnext : i < policy.maxRetries ∧ IsSurmountable request e)
      (hc : (net.sent request (net.before policy request s i)).cancelled = true) :
      Ends s (i + 1) (.error .cancelled) (net.sent request (net.before policy request s i))
  /-- The caller cancels in the pause before a retry, which ends the pause. -/
  | inPause {i : Nat} {e : TransportError} (h : net.Tries policy request s i)
      (he : net.heard request (net.before policy request s i) = some (.error e))
      (hnext : i < policy.maxRetries ∧ IsSurmountable request e)
      (hc : (net.sent request (net.before policy request s i)).cancelled = false)
      (hpause : (net.before policy request s (i + 1)).cancelled = true) :
      Ends s (i + 1) (.error .cancelled) (net.before policy request s (i + 1))

/-- The first `n` attempts, each with the pause after it, which is drawn for the attempt's number.
-/
def rounds (s : Session ω) : Nat → List Step
  | 0 => []
  | i + 1 => rounds s i ++ [.attempt request,
      .pause (net.delay policy i (net.sent request (net.before policy request s i)))]

/-- `n` attempts, with one pause between any two. -/
def course (s : Session ω) : Nat → List Step
  | 0 => []
  | i + 1 => net.rounds policy request s i ++ [.attempt request]

variable {net policy request} {s : Session ω}

/-- Nothing is done but attempts of the one request and pauses. -/
theorem eq_of_mem_course {n : Nat} {step : Step} (h : step ∈ net.course policy request s n) :
    step = .attempt request ∨ ∃ length, step = .pause length := by
  have hrounds : ∀ i, ∀ step ∈ net.rounds policy request s i,
      step = .attempt request ∨ ∃ length, step = .pause length := by
    intro i
    induction i with
    | zero => exact fun step h ↦ absurd h List.not_mem_nil
    | succ i ih =>
      intro step h
      rcases List.mem_append.1 h with h | h
      · exact ih step h
      · rcases List.mem_cons.1 h with h | h
        · exact .inl h
        · exact .inr ⟨_, List.mem_singleton.1 h⟩
  cases n with
  | zero => exact absurd h List.not_mem_nil
  | succ i =>
    rcases List.mem_append.1 h with h | h
    · exact hrounds i step h
    · exact .inl (List.mem_singleton.1 h)

/-! ### One attempt and one pause -/

/-- An attempt of a caller who has not cancelled is heard of, or is given up. -/
theorem outcome_sendOnce_of_live (h : s.cancelled = false) :
    (net.sendOnce request).outcome s =
      .ok ((net.heard request s).elim (.error .cancelled) .ok, net.sent request s) := by
  rw [outcome_sendOnce, if_neg (Bool.eq_false_iff.1 h), heard, sent]
  rcases hx : (net.exchange request s.peer).1.interruption with _ | (_ | _) <;> simp [hx]

/-- A pause goes by, or the caller has cancelled when it is over. -/
theorem outcome_pause_of_live {i : Nat} (h : s.cancelled = false) :
    (net.pause policy i).outcome s =
      .ok (if (net.rested policy i s).cancelled then .error .cancelled else .ok (),
        net.rested policy i s) := by
  rw [outcome_pause, if_neg (Bool.eq_false_iff.1 h)]
  change (if (net.rested policy i s).cancelled then _ else _) = _
  split <;> rfl

/-- A session that is not cancelled after a request was not cancelled before it. -/
theorem sent_of_live (h : (net.sent request s).cancelled = false) :
    s.cancelled = false ∧ (net.sent request s).trace = s.trace ++ [.attempt request] := by
  simp only [sent] at h ⊢
  split
  · rename_i hx
    rw [if_pos hx, Session.cancelled_cancel] at h
    cases h
  · rename_i hx
    rw [if_neg hx] at h
    exact ⟨h, rfl⟩

/-- A request is noted once, and then the cancellation if it came with it. -/
theorem trace_sent (h : s.cancelled = false) :
    (net.sent request s).trace = s.trace ++ [.attempt request] ++
      if (net.sent request s).cancelled then [.cancel] else [] := by
  cases hc : (net.sent request s).cancelled with
  | false =>
    rw [(sent_of_live hc).2]
    simp
  | true =>
    simp only [sent] at hc ⊢
    split
    · exact Session.trace_cancel_of_live h
    · rename_i hx
      rw [if_neg hx] at hc
      exact absurd (h.symm.trans hc) Bool.false_ne_true

/-- **One turn of the loop**: what is heard of the attempt ends it, or the pause and the next turn
follow. -/
theorem outcome_sendFrom_of_live (left i : Nat) (h : s.cancelled = false) :
    (net.sendFrom policy request left i).outcome s =
      match net.heard request s, left with
      | none, _ => .ok (.error .cancelled, net.sent request s)
      | some (.ok r), _ => .ok (.ok r, net.sent request s)
      | some (.error e), 0 => .ok (.error (.transport e), net.sent request s)
      | some (.error e), left + 1 =>
        if e.isTransient && request.body.isReplayable then
          (do net.pause policy i; net.sendFrom policy request left (i + 1) :
            Call ω RequestError Http.Response).outcome (net.sent request s)
        else .ok (.error (.transport e), net.sent request s) := by
  rw [sendFrom.eq_def]
  dsimp only
  rw [outcome_bind, outcome_sendOnce_of_live h]
  rcases net.heard request s with _ | e | r
  · rfl
  · cases left with
    | zero => rfl
    | succ left =>
      simp only [Option.elim_some]
      split <;> rfl
  · rfl

/-- The next turn is reached through the pause. -/
theorem outcome_sendFrom_of_surmountable (left i : Nat) {e : TransportError}
    (h : s.cancelled = false) (he : net.heard request s = some (.error e))
    (hs : IsSurmountable request e) :
    (net.sendFrom policy request (left + 1) i).outcome s =
      (do net.pause policy i; net.sendFrom policy request left (i + 1) :
        Call ω RequestError Http.Response).outcome (net.sent request s) := by
  rw [outcome_sendFrom_of_live _ _ h, he]
  exact if_pos (Bool.and_eq_true_iff.2 hs)

/-! ### Which attempts are made -/

/-- An attempt and a pause are between one attempt and the next. -/
theorem before_succ (i : Nat) :
    net.before policy request s (i + 1) =
      net.rested policy i (net.sent request (net.before policy request s i)) := rfl

/-- A caller who has not cancelled by the next attempt has not done so by the end of this one. -/
theorem live_of_live_succ {i : Nat} (h : (net.before policy request s (i + 1)).cancelled = false) :
    (net.sent request (net.before policy request s i)).cancelled = false :=
  (Session.trace_pause_of_live h).1

namespace Tries

variable {i : Nat}

/-- An attempt is made only after the one before it. -/
theorem of_succ (h : net.Tries policy request s (i + 1)) : net.Tries policy request s i := by
  obtain ⟨hle, hlive, hfailed⟩ := h
  exact ⟨Nat.le_of_succ_le hle, (sent_of_live (live_of_live_succ hlive)).1,
    fun j hj ↦ hfailed j (Nat.lt_succ_of_lt hj)⟩

/-- So it is made only after all before it. -/
theorem of_le {j : Nat} (h : net.Tries policy request s i) (hj : j ≤ i) :
    net.Tries policy request s j := by
  induction i with
  | zero =>
    obtain rfl : j = 0 := Nat.le_zero.1 hj
    exact h
  | succ i ih =>
    rcases Nat.le_succ_iff.1 hj with hj | rfl
    · exact ih h.of_succ hj
    · exact h

/-- **An attempt is the last one, or the next one is made.** -/
theorem ends_or_succ (h : net.Tries policy request s i) :
    (∃ r t, net.Ends policy request s (i + 1) r t) ∨ net.Tries policy request s (i + 1) := by
  obtain ⟨hle, hlive, hfailed⟩ := h
  -- The cases come in the order in which the loop looks at them, the caller last.
  cases hheard : net.heard request (net.before policy request s i) with
  | none => exact .inl ⟨_, _, .inFlight ⟨hle, hlive, hfailed⟩ hheard⟩
  | some outcome =>
    cases outcome with
    | ok r => exact .inl ⟨_, _, .response ⟨hle, hlive, hfailed⟩ hheard⟩
    | error e =>
      by_cases hlast : i = policy.maxRetries ∨ ¬ IsSurmountable request e
      · exact .inl ⟨_, _, .failure ⟨hle, hlive, hfailed⟩ hheard hlast⟩
      · obtain ⟨hne, hs⟩ := not_or.1 hlast
        have hnext : i < policy.maxRetries ∧ IsSurmountable request e :=
          ⟨Nat.lt_of_le_of_ne hle hne, not_not.1 hs⟩
        cases hsent : (net.sent request (net.before policy request s i)).cancelled with
        | true => exact .inl ⟨_, _, .beforePause ⟨hle, hlive, hfailed⟩ hheard hnext hsent⟩
        | false =>
          cases hpause : (net.before policy request s (i + 1)).cancelled with
          | true => exact .inl ⟨_, _, .inPause ⟨hle, hlive, hfailed⟩ hheard hnext hsent hpause⟩
          | false =>
            refine .inr ⟨hnext.1, hpause, fun j hj ↦ ?_⟩
            rcases Nat.lt_succ_iff_lt_or_eq.1 hj with hj | rfl
            · exact hfailed j hj
            · exact ⟨e, hheard, hnext.2⟩

/-- **An attempt that is made is reached**, with the retries that are left then. -/
theorem outcome_send (h : net.Tries policy request s i) :
    (net.send policy request).outcome s =
      (net.sendFrom policy request (policy.maxRetries - i) i).outcome
        (net.before policy request s i) := by
  induction i with
  | zero => rfl
  | succ i ih =>
    obtain ⟨hle, hlive, hfailed⟩ := h
    have hi : net.Tries policy request s i := of_succ ⟨hle, hlive, hfailed⟩
    obtain ⟨e, he, hs⟩ := hfailed i (Nat.lt_succ_self i)
    have hleft : policy.maxRetries - i = policy.maxRetries - (i + 1) + 1 := by omega
    rw [ih hi, hleft, outcome_sendFrom_of_surmountable _ _ hi.2.1 he hs, outcome_bind,
      outcome_pause_of_live (live_of_live_succ hlive), ← before_succ, hlive]
    rfl

/-- What is noted up to an attempt are the rounds before it. -/
theorem trace_before (h : net.Tries policy request s i) :
    (net.before policy request s i).trace = s.trace ++ net.rounds policy request s i := by
  induction i with
  | zero => exact (List.append_nil _).symm
  | succ i ih =>
    have hlive := live_of_live_succ h.2.1
    rw [before_succ, rested, (Session.trace_pause_of_live h.2.1).2, rounds]
    show (net.sent request (net.before policy request s i)).trace ++ _ = _
    rw [(sent_of_live hlive).2, ih h.of_succ]
    simp

end Tries

/-! ### How it ends -/

namespace Ends

variable {n : Nat} {r : Except RequestError Http.Response} {t : Session ω}

/-- However it can end, it ends so. -/
theorem outcome_send (h : net.Ends policy request s n r t) :
    (net.send policy request).outcome s = .ok (r, t) := by
  cases h with
  | atEntry h =>
    rw [send, sendFrom.eq_def]
    dsimp only
    rw [outcome_bind, outcome_sendOnce, if_pos h]
  | response h hr => rw [h.outcome_send, outcome_sendFrom_of_live _ _ h.2.1, hr]
  | @failure i e h he hlast =>
    rw [h.outcome_send, outcome_sendFrom_of_live _ _ h.2.1, he]
    rcases hlast with rfl | hs
    · rw [Nat.sub_self]
    · have hnot : ¬ (e.isTransient && request.body.isReplayable) = true :=
        mt Bool.and_eq_true_iff.1 hs
      cases policy.maxRetries - i with
      | zero => rfl
      | succ left => exact if_neg hnot
  | inFlight h hr => rw [h.outcome_send, outcome_sendFrom_of_live _ _ h.2.1, hr]
  | @beforePause i e h he hnext hc =>
    have hleft : policy.maxRetries - i = policy.maxRetries - i - 1 + 1 := by omega
    rw [h.outcome_send, hleft, outcome_sendFrom_of_surmountable _ _ h.2.1 he hnext.2, outcome_bind,
      outcome_pause, if_pos hc]
  | @inPause i e h he hnext hc hpause =>
    have hleft : policy.maxRetries - i = policy.maxRetries - i - 1 + 1 := by omega
    rw [h.outcome_send, hleft, outcome_sendFrom_of_surmountable _ _ h.2.1 he hnext.2, outcome_bind,
      outcome_pause_of_live hc, ← before_succ, hpause]
    rfl

/-- After the end no attempt is made. -/
theorem not_tries (h : net.Ends policy request s n r t) : ¬ net.Tries policy request s n := by
  rintro ⟨hle, hlive, hfailed⟩
  cases h with
  | atEntry h => exact Bool.false_ne_true (hlive.symm.trans h)
  | @response i r h hr =>
    obtain ⟨e, he, -⟩ := hfailed i (Nat.lt_succ_self i)
    rw [hr] at he
    cases he
  | @failure i e h he hlast =>
    obtain ⟨e', he', hs⟩ := hfailed i (Nat.lt_succ_self i)
    rw [he] at he'
    cases he'
    rcases hlast with rfl | hnot
    · exact Nat.not_succ_le_self _ hle
    · exact hnot hs
  | @inFlight i h hr =>
    obtain ⟨e, he, -⟩ := hfailed i (Nat.lt_succ_self i)
    rw [hr] at he
    cases he
  | beforePause _ _ _ hc => exact Bool.false_ne_true ((live_of_live_succ hlive).symm.trans hc)
  | inPause _ _ _ _ hpause => exact Bool.false_ne_true (hlive.symm.trans hpause)

/-- The attempts that are made are those before the end. -/
theorem lt_iff_tries (h : net.Ends policy request s n r t) (i : Nat) :
    i < n ↔ net.Tries policy request s i := by
  refine ⟨fun hi ↦ ?_, fun hi ↦ ?_⟩
  · have hlast : ∀ k, n = k + 1 → net.Tries policy request s k := by
      rintro k rfl
      cases h <;> assumption
    cases n with
    | zero => exact absurd hi (Nat.not_lt_zero i)
    | succ k => exact (hlast k rfl).of_le (Nat.lt_succ_iff.1 hi)
  · by_contra hlt
    exact h.not_tries (hi.of_le (Nat.not_lt.1 hlt))

/-- What is noted are the attempts with one pause between any two, and then the cancellation if
there is one. -/
theorem trace_eq (h : net.Ends policy request s n r t) :
    t.trace = s.trace ++ net.course policy request s n ++
      if t.cancelled && !s.cancelled then [.cancel] else [] := by
  have hentry : ∀ {i}, net.Tries policy request s i → s.cancelled = false :=
    fun h ↦ (h.of_le (Nat.zero_le _)).2.1
  have hsent : ∀ {i}, net.Tries policy request s i →
      (net.sent request (net.before policy request s i)).trace =
        s.trace ++ net.course policy request s (i + 1) ++
          if (net.sent request (net.before policy request s i)).cancelled && !s.cancelled
            then [.cancel] else [] := by
    intro i h
    rw [trace_sent h.2.1, h.trace_before, hentry h, course]
    simp
  cases h with
  | atEntry h => simp [course, h]
  | response h _ => exact hsent h
  | failure h _ _ => exact hsent h
  | inFlight h _ => exact hsent h
  | beforePause h _ _ _ => exact hsent h
  | @inPause i e h _ _ hc hpause =>
    have htrace := hsent h
    rw [hc] at htrace
    have hcut : (net.before policy request s (i + 1)).trace =
        (net.sent request (net.before policy request s i)).trace ++ [.cancel] :=
      Session.trace_pause_of_cancelled hc hpause
    rw [hpause, hentry h, hcut]
    rw [htrace]
    simp

end Ends

/-- Sending ends: with each attempt that is made a retry less is left. -/
theorem exists_ends : ∃ n r t, net.Ends policy request s n r t := by
  -- The induction is on the retries that are left; that the attempt is made carries it.
  have hrun : ∀ left i, i + left = policy.maxRetries → net.Tries policy request s i →
      ∃ n r t, net.Ends policy request s n r t := by
    intro left
    induction left with
    | zero =>
      intro i hi h
      rcases h.ends_or_succ with ⟨r, t, hends⟩ | hnext
      · exact ⟨_, r, t, hends⟩
      · exact absurd hnext.1 (by omega)
    | succ left ih =>
      intro i hi h
      rcases h.ends_or_succ with ⟨r, t, hends⟩ | hnext
      · exact ⟨_, r, t, hends⟩
      · exact ih (i + 1) (by omega) hnext
  cases h : s.cancelled with
  | true => exact ⟨0, _, s, .atEntry h⟩
  | false => exact hrun policy.maxRetries 0 (Nat.zero_add _) ⟨Nat.zero_le _, h, fun j hj ↦
      absurd hj (Nat.not_lt_zero j)⟩

/-- **The course of a request.** For every network, policy and request, and every session, sending
ends, in one of the ways that `Ends` lists and in no other. The attempts that are made are those
that `Tries` allows, at most one more than there are retries, each with the same request; between
any two of them there is one pause, of a length drawn for the number of the first. A cancellation is
the last thing that is noted. -/
theorem send_course (net : Network ω) (policy : RetryPolicy) (request : Http.Request)
    (s : Session ω) :
    ∃ n r t, (net.send policy request).outcome s = .ok (r, t) ∧
      (∀ n' r' t', net.Ends policy request s n' r' t' ↔ n' = n ∧ r' = r ∧ t' = t) ∧
      (∀ i, i < n ↔ net.Tries policy request s i) ∧ n ≤ policy.maxRetries + 1 ∧
      t.trace = s.trace ++ net.course policy request s n ++
        if t.cancelled && !s.cancelled then [.cancel] else [] := by
  obtain ⟨n, r, t, h⟩ : ∃ n r t, net.Ends policy request s n r t := exists_ends
  refine ⟨n, r, t, h.outcome_send, fun n' r' t' ↦ ⟨fun h' ↦ ?_, ?_⟩, h.lt_iff_tries, ?_, h.trace_eq⟩
  · have heq := h'.outcome_send.symm.trans h.outcome_send
    cases heq
    refine ⟨?_, rfl, rfl⟩
    -- Both numbers have the same numbers below them.
    rcases Nat.lt_trichotomy n' n with hlt | heq | hlt
    · exact absurd ((h.lt_iff_tries n').1 hlt) h'.not_tries
    · exact heq
    · exact absurd ((h'.lt_iff_tries n).1 hlt) h.not_tries
  · rintro ⟨rfl, rfl, rfl⟩
    exact h
  · by_contra hlt
    have htries := (h.lt_iff_tries (policy.maxRetries + 1)).1 (Nat.not_le.1 hlt)
    exact Nat.not_succ_le_self _ htries.1

end Network

end AuditFeed
