import AuditFeed.Proofs.Recording
import AuditFeed.Proofs.ServiceAccount
import Mathlib.Data.Option.Basic

/-!
# What is asked for a scope

A scope that is served by a grant is not asked for. Otherwise the scope is asked for, and its parent
after it only where the scope was refused; whatever the second answer is, the first one is the
error.

## Courses

`Grants.Course` lists the ways in which that can go, and `Grants.outcome_obtain_iff` says that there
is no other one, so what follows is read off the three cases. `Grants.Asks` does the same for the
part behind the grants, where the source is asked: its answer is taken, or the parent is asked for
as well, with a token or in vain.

What is said of the grants needs a source that answers what it was asked (`TokenSource.IsFaithful`):
a token for another scope would be kept under that scope. What is asked needs nothing of the source.

## The record

What is asked is told by a record: `TokenSource.recorded` is the same source, which also writes down
each scope that it is asked for. The record is no part of what the source sees
(`Call.outcome_recorded`), so for every source there is one that is recorded and answers alike, and
what the record shows of it is what the source was asked for.

## Main statements

* `Grants.outcome_obtain_iff`: the ways in which obtaining a grant goes.
* `Grants.obtain_course`: what `Grants.obtain` asks for, when, and what it leaves.
-/

namespace AuditFeed

open Call

variable {ω : Type}

/-! ### Scopes -/

namespace Scope

/-- The parent of a scope is what is in front of the ending, unless there is nothing. -/
theorem parent?_eq_some_iff {scope parent : String} :
    parent? scope = some parent ↔ parent ≠ "" ∧ scope = parent ++ ".readonly" := by
  rw [parent?]
  constructor
  · intro h
    split at h
    · rename_i hends
      obtain ⟨happend, hne⟩ := hends
      obtain rfl := Option.some.inj h
      refine ⟨fun hempty ↦ hne (String.ofList_eq_empty_iff.1 hempty), ?_⟩
      rw [← String.toList_inj, String.toList_append, String.toList_ofList]
      exact happend.symm
    · cases h
  · rintro ⟨hne, rfl⟩
    have htake : (parent ++ ".readonly").toList.take
        ((parent ++ ".readonly").toList.length - readOnly.length) = parent.toList := by
      rw [String.toList_append, List.length_append]
      exact List.take_left' (Nat.add_sub_cancel _ _).symm
    rw [htake, if_pos ⟨String.toList_append.symm, mt String.toList_eq_nil_iff.1 hne⟩,
      String.ofList_toList]

end Scope

/-- Does a grant serve a scope: is it for the scope or for its parent? -/
def Grant.Serves (grant : Grant) (scope : String) : Prop :=
  grant.scope = scope ∨ grant.scope ≠ "" ∧ scope = grant.scope ++ ".readonly"

namespace Grants

/-- Is there a grant that serves a scope? -/
def Covers (g : Grants) (scope : String) : Prop :=
  ∃ grant ∈ g.current, grant.Serves scope

variable {g : Grants} {grant : Grant} {scope : String}

/-- What is found for a scope is a grant for it. -/
theorem of_find? (h : g.find? scope = some grant) : grant ∈ g.current ∧ grant.scope = scope :=
  ⟨List.mem_of_find?_eq_some h, by simpa using List.find?_some h⟩

theorem find?_eq_none_iff : g.find? scope = none ↔ ∀ grant ∈ g.current, grant.scope ≠ scope := by
  simp [find?]

/-- The grant that is found for a scope is the one of its own scope, and serves the other one. -/
theorem of_serving? (h : g.serving? scope = some grant) :
    g.find? grant.scope = some grant ∧ grant.Serves scope := by
  rcases hown : g.find? scope with _ | own
  · rw [serving?, hown] at h
    obtain ⟨parent, hparent, hfind⟩ := Option.bind_eq_some_iff.1 h
    obtain ⟨-, rfl⟩ := of_find? hfind
    exact ⟨hfind, .inr (Scope.parent?_eq_some_iff.1 hparent)⟩
  · rw [serving?, hown] at h
    cases h
    obtain ⟨-, rfl⟩ := of_find? hown
    exact ⟨hown, .inl rfl⟩

/-- What is found serves the scope. -/
theorem covers_of_serving? (h : g.serving? scope = some grant) : g.Covers scope :=
  ⟨grant, (of_find? (of_serving? h).1).1, (of_serving? h).2⟩

/-- Nothing is found for a scope exactly if no grant serves it. -/
theorem serving?_eq_none_iff : g.serving? scope = none ↔ ¬ g.Covers scope := by
  constructor
  · rintro h ⟨grant, hmem, hserves⟩
    rw [serving?, Option.orElse_eq_none] at h
    obtain ⟨hown, hwide⟩ := h
    rcases hserves with hscope | hparent
    · exact find?_eq_none_iff.1 hown grant hmem hscope
    · rw [Scope.parent?_eq_some_iff.2 hparent] at hwide
      exact find?_eq_none_iff.1 hwide grant hmem rfl
  · exact fun h ↦ Option.eq_none_iff_forall_ne_some.2 fun grant hserving ↦
      h (covers_of_serving? hserving)

/-- Where nothing serves a scope, a grant that does is one of a new scope. -/
theorem find?_eq_none_of_serves (hnone : ¬ g.Covers scope) (h : grant.Serves scope) :
    g.find? grant.scope = none := by
  refine find?_eq_none_iff.2 fun other hmem hscope ↦ hnone ⟨other, hmem, ?_⟩
  rw [Grant.Serves, hscope]
  exact h

/-- The grant that a token makes. -/
def made (g : Grants) (token : Token) : Grant :=
  ⟨g.count, token.scope, token⟩

/-- The grants with the one that a token makes. -/
def adding (g : Grants) (token : Token) : Grants :=
  { g.insert (g.made token) with count := g.count + 1 }

/-- A grant of a new scope is put in front of the others. -/
theorem current_adding {token : Token} (h : g.find? token.scope = none) :
    (g.adding token).current = g.made token :: g.current :=
  congrArg (g.made token :: ·) <| List.filter_eq_self.2 fun grant hmem ↦
    decide_eq_true (find?_eq_none_iff.1 h grant hmem)

end Grants

/-! ### Faithful sources -/

/-- A source whose tokens are for the scopes that they are asked for, and which leaves the grants
alone. When it refuses, fails or overflows is its own affair. -/
structure TokenSource.IsFaithful (tokens : TokenSource ω) : Prop where
  scope_eq {scope : String} {s t : Session ω} {token : Token} :
    (tokens scope).Returns s token t → token.scope = scope
  grants_eq {scope : String} {s t : Session ω} {r : Except AuthError Token} :
    (tokens scope).outcome s = .ok (r, t) → t.grants = s.grants

/-- Service accounts are faithful. -/
theorem ServiceAccount.isFaithful (a : ServiceAccount ω) : a.tokens.IsFaithful where
  scope_eq {scope s t token} h := by
    rw [tokens_eq_bind] at h
    obtain ⟨response, u, -, h⟩ := returns_bind.1 h
    exact scope_of_returns_readAnswer h
  grants_eq {scope s t r} h :=
    (takes_tokens_undisturbed a scope).keeps (P := fun u ↦ u.grants = s.grants)
      (fun _ _ hstep hs ↦ hstep.grants.trans hs) h rfl

namespace Grants

variable {tokens : TokenSource ω} {s t : Session ω} {scope : String}

/-! ### Asking -/

/-- **What a scope that is not yet granted is asked for with**: which scopes are asked for, what the
result is, and which session is left. -/
inductive Asks (tokens : TokenSource ω) (scope : String) (s : Session ω) :
    List String → Except AuthError Token → Session ω → Prop
  /-- The answer for the scope is a token, or an error after which there is nothing to ask for. -/
  | once {r : Except AuthError Token} {t : Session ω} (h : (tokens scope).outcome s = .ok (r, t))
      (hlast : ∀ e, r = .error e → e.isUnauthorized = true → Scope.parent? scope = none) :
      Asks tokens scope s [scope] r t
  /-- The scope is refused, and its parent is granted. -/
  | widened {parent : String} {e : AuthError} {token : Token} {t u : Session ω}
      (hparent : Scope.parent? scope = some parent) (h : (tokens scope).Fails s e t)
      (hrefused : e.isUnauthorized = true) (hwide : (tokens parent).Returns t token u) :
      Asks tokens scope s [scope, parent] (.ok token) u
  /-- The scope is refused, and there is no token for its parent either. -/
  | twice {parent : String} {e e' : AuthError} {t u : Session ω}
      (hparent : Scope.parent? scope = some parent) (h : (tokens scope).Fails s e t)
      (hrefused : e.isUnauthorized = true) (hwide : (tokens parent).Fails t e' u) :
      Asks tokens scope s [scope, parent] (.error e) u

namespace Asks

variable {asked : List String} {r : Except AuthError Token} {e : AuthError} {token : Token}

/-- The parent is asked for only where the scope was refused. -/
theorem asked_cases (h : Asks tokens scope s asked r t) :
    asked = [scope] ∨ ∃ parent, asked = [scope, parent] ∧ parent ≠ "" ∧
      scope = parent ++ ".readonly" ∧
        ∃ e u, (tokens scope).Fails s e u ∧ e.isUnauthorized = true := by
  cases h with
  | once => exact .inl rfl
  | widened hparent h hrefused =>
    obtain ⟨hne, hscope⟩ := Scope.parent?_eq_some_iff.1 hparent
    exact .inr ⟨_, rfl, hne, hscope, _, _, h, hrefused⟩
  | twice hparent h hrefused =>
    obtain ⟨hne, hscope⟩ := Scope.parent?_eq_some_iff.1 hparent
    exact .inr ⟨_, rfl, hne, hscope, _, _, h, hrefused⟩

/-- The error is the one for the scope itself. -/
theorem fails (h : Asks tokens scope s asked (.error e) t) : ∃ u, (tokens scope).Fails s e u := by
  cases h with
  | once h => exact ⟨t, h⟩
  | twice _ h => exact ⟨_, h⟩

variable (hfaithful : tokens.IsFaithful)
include hfaithful

/-- Asking leaves the grants alone, as the source does. -/
theorem grants_eq (h : Asks tokens scope s asked r t) : t.grants = s.grants := by
  cases h with
  | once h => exact hfaithful.grants_eq h
  | widened _ h _ hwide => exact (hfaithful.grants_eq hwide).trans (hfaithful.grants_eq h)
  | twice _ h _ hwide => exact (hfaithful.grants_eq hwide).trans (hfaithful.grants_eq h)

/-- The token is for the scope or for its parent. -/
theorem token_scope (h : Asks tokens scope s asked (.ok token) t) :
    token.scope = scope ∨ token.scope ≠ "" ∧ scope = token.scope ++ ".readonly" := by
  cases h with
  | once h => exact .inl (hfaithful.scope_eq h)
  | widened hparent _ _ hwide =>
    rw [← hfaithful.scope_eq hwide] at hparent
    exact .inr (Scope.parent?_eq_some_iff.1 hparent)

/-- Where nothing served the scope, the token is for a scope that is not yet granted. -/
theorem find?_eq_none (hnone : s.grants.serving? scope = none)
    (h : Asks tokens scope s asked (.ok token) t) : t.grants.find? token.scope = none := by
  have hserves : (t.grants.made token).Serves scope := h.token_scope hfaithful
  rw [h.grants_eq hfaithful]
  exact find?_eq_none_of_serves (serving?_eq_none_iff.1 hnone) hserves

end Asks

/-- Asking goes in one of these ways, and in each of them. -/
theorem outcome_request_iff {r : Except AuthError Token} :
    (request tokens scope).outcome s = .ok (r, t) ↔ ∃ asked, Asks tokens scope s asked r t := by
  rw [request, outcome_bind, outcome_attempt]
  constructor
  · -- The first answer decides whether there is a second one.
    intro h
    rcases hfirst : (tokens scope).outcome s with o | ⟨e | token, u⟩ <;> rw [hfirst] at h
    · cases h
    · dsimp only [Except.map] at h
      rcases hparent : Scope.parent? scope with _ | parent <;> rw [hparent] at h
      · cases h
        exact ⟨_, .once hfirst fun _ _ _ ↦ hparent⟩
      · dsimp only at h
        split at h
        · rename_i hrefused
          rw [outcome_bind, outcome_attempt] at h
          rcases hwide : (tokens parent).outcome u with o | ⟨e' | token, v⟩ <;>
            rw [hwide] at h <;> cases h
          · exact ⟨_, .twice hparent hfirst hrefused hwide⟩
          · exact ⟨_, .widened hparent hfirst hrefused hwide⟩
        · rename_i hother
          cases h
          refine ⟨_, .once hfirst fun e' he hrefused ↦ ?_⟩
          cases he
          exact absurd hrefused hother
    · cases h
      refine ⟨_, .once hfirst fun e he ↦ ?_⟩
      cases he
  · rintro ⟨asked, h⟩
    cases h with
    | once h hlast =>
      rw [h]
      cases r with
      | ok token => rfl
      | error e =>
        dsimp only [Except.map]
        by_cases hrefused : e.isUnauthorized = true
        · rw [hlast e rfl hrefused]
          rfl
        · split
          · rw [if_neg hrefused]
            rfl
          · rfl
    | widened hparent h hrefused hwide =>
      rw [Fails] at h
      rw [Returns] at hwide
      simp only [h, Except.map, hparent, if_pos hrefused, outcome_bind, outcome_attempt, hwide]
      rfl
    | twice hparent h hrefused hwide =>
      rw [Fails] at h hwide
      simp only [h, Except.map, hparent, if_pos hrefused, outcome_bind, outcome_attempt, hwide]
      rfl

/-! ### Obtaining -/

/-- **How obtaining a grant goes**: which scopes are asked for, what the result is, and which
session is left. -/
inductive Course (tokens : TokenSource ω) (scope : String) (s : Session ω) :
    List String → Except AuthError Grant → Session ω → Prop
  /-- There is a grant that serves the scope. -/
  | held {grant : Grant} (h : s.grants.serving? scope = some grant) :
      Course tokens scope s [] (.ok grant) s
  /-- There is a token, which is kept. -/
  | granted {asked : List String} {token : Token} {t : Session ω}
      (hnone : s.grants.serving? scope = none) (h : Asks tokens scope s asked (.ok token) t) :
      Course tokens scope s asked (.ok (t.grants.made token))
        { t with grants := t.grants.adding token }
  /-- There is no token. -/
  | failed {asked : List String} {e : AuthError} {t : Session ω}
      (hnone : s.grants.serving? scope = none) (h : Asks tokens scope s asked (.error e) t) :
      Course tokens scope s asked (.error e) t

/-- What is held is given without asking. -/
theorem returns_obtain_of_serving? (tokens : TokenSource ω) {grant : Grant}
    (h : s.grants.serving? scope = some grant) : (obtain tokens scope).Returns s grant s := by
  rw [Returns, obtain, outcome_bind, outcome_get]
  dsimp only
  rw [h]
  rfl

/-- Obtaining goes in one of these ways, and in each of them. -/
theorem outcome_obtain_iff {r : Except AuthError Grant} :
    (obtain tokens scope).outcome s = .ok (r, t) ↔ ∃ asked, Course tokens scope s asked r t := by
  rcases hserving : s.grants.serving? scope with _ | grant
  · have hobtain : (obtain tokens scope).outcome s = (request tokens scope >>= keep).outcome s := by
      rw [obtain, outcome_bind, outcome_get]
      dsimp only
      rw [hserving]
    rw [hobtain, outcome_bind]
    constructor
    · -- Nothing serves the scope, so the course is that of asking, and a token is kept.
      intro h
      rcases hrequest : (request tokens scope).outcome s with o | ⟨e | token, u⟩ <;>
        rw [hrequest] at h <;> cases h
      · obtain ⟨asked, hasks⟩ := outcome_request_iff.1 hrequest
        exact ⟨asked, .failed hserving hasks⟩
      · obtain ⟨asked, hasks⟩ := outcome_request_iff.1 hrequest
        exact ⟨asked, .granted hserving hasks⟩
    · rintro ⟨asked, h⟩
      cases h with
      | held h => cases hserving.symm.trans h
      | granted _ h =>
        rw [outcome_request_iff.2 ⟨asked, h⟩]
        rfl
      | failed _ h => rw [outcome_request_iff.2 ⟨asked, h⟩]
  · have hobtain := returns_obtain_of_serving? tokens hserving
    constructor
    · intro h
      cases hobtain.symm.trans h
      exact ⟨[], .held hserving⟩
    · rintro ⟨asked, h⟩
      cases h with
      | held h =>
        cases hserving.symm.trans h
        exact hobtain
      | granted hnone _ => cases hserving.symm.trans hnone
      | failed hnone _ => cases hserving.symm.trans hnone

end Grants

/-! ### The record of what is asked for -/

/-- The same source, which also writes down each scope that it is asked for. -/
def TokenSource.recorded (tokens : TokenSource ω) : TokenSource (ω × List String) :=
  fun scope ↦ (tokens scope).recorded fun _ ↦ scope

variable {tokens : TokenSource ω} {s : Session ω} {scope : String} {past asked : List String}
  {t' : Session (ω × List String)}

namespace Grants

/-- The record shows what is asked for, and asking goes as it does without. -/
theorem asks_recorded_iff {r : Except AuthError Token} :
    Asks tokens.recorded scope (s.beside past) asked r t' ↔
      ∃ t, t' = t.beside (past ++ asked) ∧ Asks tokens scope s asked r t := by
  have hboth (parent : String) : past ++ [scope] ++ [parent] = past ++ [scope, parent] :=
    List.append_assoc ..
  constructor
  · intro h
    cases h with
    | once h hlast =>
      obtain ⟨t, rfl, hfirst⟩ := outcome_recorded_iff.1 h
      exact ⟨t, rfl, .once hfirst hlast⟩
    | widened hparent h hrefused hwide =>
      obtain ⟨t, rfl, hfirst⟩ := outcome_recorded_iff.1 h
      obtain ⟨u, rfl, hsecond⟩ := outcome_recorded_iff.1 hwide
      exact ⟨u, by rw [hboth], .widened hparent hfirst hrefused hsecond⟩
    | twice hparent h hrefused hwide =>
      obtain ⟨t, rfl, hfirst⟩ := outcome_recorded_iff.1 h
      obtain ⟨u, rfl, hsecond⟩ := outcome_recorded_iff.1 hwide
      exact ⟨u, by rw [hboth], .twice hparent hfirst hrefused hsecond⟩
  · rintro ⟨t, rfl, h⟩
    cases h with
    | once h hlast => exact .once (outcome_recorded_iff.2 ⟨_, rfl, h⟩) hlast
    | widened hparent h hrefused hwide =>
      exact .widened hparent (outcome_recorded_iff.2 ⟨_, rfl, h⟩) hrefused
        (outcome_recorded_iff.2 ⟨_, by rw [hboth], hwide⟩)
    | twice hparent h hrefused hwide =>
      exact .twice hparent (outcome_recorded_iff.2 ⟨_, rfl, h⟩) hrefused
        (outcome_recorded_iff.2 ⟨_, by rw [hboth], hwide⟩)

/-- The record shows what obtaining asks for, and obtaining goes as it does without. -/
theorem course_recorded_iff {r : Except AuthError Grant} :
    Course tokens.recorded scope (s.beside past) asked r t' ↔
      ∃ t, t' = t.beside (past ++ asked) ∧ Course tokens scope s asked r t := by
  constructor
  · intro h
    cases h with
    | held h => exact ⟨s, by rw [List.append_nil], .held h⟩
    | granted hnone h =>
      obtain ⟨t, rfl, hasks⟩ := asks_recorded_iff.1 h
      exact ⟨_, rfl, .granted hnone hasks⟩
    | failed hnone h =>
      obtain ⟨t, rfl, hasks⟩ := asks_recorded_iff.1 h
      exact ⟨t, rfl, .failed hnone hasks⟩
  · rintro ⟨t, rfl, h⟩
    cases h with
    | held h =>
      rw [List.append_nil]
      exact .held h
    | granted hnone h =>
      have hasks : Asks tokens.recorded scope (s.beside past) asked _ _ :=
        asks_recorded_iff.2 ⟨_, rfl, h⟩
      have hcourse : Course tokens.recorded scope (s.beside past) asked _ _ := .granted hnone hasks
      exact hcourse
    | failed hnone h => exact .failed hnone (asks_recorded_iff.2 ⟨_, rfl, h⟩)

/-! ### What obtaining leaves -/

section

variable {r : Except AuthError Grant} {t : Session ω}

/-- If the parent cannot be had either, the error is the one for the scope. -/
theorem fails_obtain_of_fails {parent : String} {e e' : AuthError} {u : Session ω}
    (hnone : ¬ s.grants.Covers scope) (hparent : Scope.parent? scope = some parent)
    (h : (tokens scope).Fails s e t) (hrefused : e.isUnauthorized = true)
    (hwide : (tokens parent).Fails t e' u) : (obtain tokens scope).Fails s e u :=
  outcome_obtain_iff.2
    ⟨_, .failed (serving?_eq_none_iff.2 hnone) (.twice hparent h hrefused hwide)⟩

/-- Where no grant serves the scope, the first request is for the scope. -/
theorem Course.asked_cases (h : Course tokens scope s asked r t) :
    (s.grants.Covers scope ∧ asked = []) ∨
      (¬ s.grants.Covers scope ∧ (asked = [scope] ∨
        ∃ parent, asked = [scope, parent] ∧ parent ≠ "" ∧ scope = parent ++ ".readonly" ∧
          ∃ e u, (tokens scope).Fails s e u ∧ e.isUnauthorized = true)) := by
  cases h with
  | held h => exact .inl ⟨covers_of_serving? h, rfl⟩
  | granted hnone h => exact .inr ⟨serving?_eq_none_iff.1 hnone, h.asked_cases⟩
  | failed hnone h => exact .inr ⟨serving?_eq_none_iff.1 hnone, h.asked_cases⟩

/-- After an error, which is the one for the scope, the grants are as before. -/
theorem Course.of_error (hfaithful : tokens.IsFaithful) {e : AuthError}
    (h : Course tokens scope s asked (.error e) t) :
    t.grants = s.grants ∧ ∃ u, (tokens scope).Fails s e u := by
  cases h with
  | failed _ h => exact ⟨h.grants_eq hfaithful, h.fails⟩

/-- After a success there is a grant that serves the scope: an old one, and nothing has changed, or
one more than before. -/
theorem Course.of_ok (hfaithful : tokens.IsFaithful) {grant : Grant}
    (h : Course tokens scope s asked (.ok grant) t) :
    grant.Serves scope ∧
      ((grant ∈ s.grants.current ∧ asked = [] ∧ t = s) ∨
        (¬ s.grants.Covers scope ∧ s.grants.find? grant.scope = none ∧
          t.grants.current = grant :: s.grants.current)) := by
  cases h with
  | held h =>
    obtain ⟨hfind, hserves⟩ := of_serving? h
    exact ⟨hserves, .inl ⟨(of_find? hfind).1, rfl, rfl⟩⟩
  | @granted asked token u hnone h =>
    have hnew : u.grants.find? token.scope = none := h.find?_eq_none hfaithful hnone
    rw [← h.grants_eq hfaithful] at hnone ⊢
    exact ⟨h.token_scope hfaithful,
      .inr ⟨serving?_eq_none_iff.1 hnone, hnew, current_adding hnew⟩⟩

end

/-- **What obtaining a grant asks for, and what it leaves.** For every faithful source, every scope
and every session:

* what is asked for, as the record shows it, is what `Course` lists, and so are the results;
* nothing is asked for exactly if a grant for the scope or for its parent is held. Otherwise the
  scope is asked for, and then its parent only where the scope was refused;
* every error is the one for the scope itself, also where the parent was asked for in vain, and
  leaves the grants as they were;
* a result without asking leaves everything as it was, and any other one exactly one grant more.

Service accounts are faithful, and one of them refuses a scope exactly if the endpoint's response to
the request for it does. -/
theorem obtain_course {tokens : TokenSource ω} (hfaithful : tokens.IsFaithful) (scope : String)
    (s : Session ω) (past : List String) :
    (∀ r t', (obtain tokens.recorded scope).outcome (s.beside past) = .ok (r, t') ↔
        ∃ asked t, t' = t.beside (past ++ asked) ∧ Course tokens scope s asked r t) ∧
      (∀ r t, (obtain tokens scope).outcome s = .ok (r, t) ↔
        ∃ asked, Course tokens scope s asked r t) ∧
      (∀ asked r t, Course tokens scope s asked r t →
        ((s.grants.Covers scope ∧ asked = []) ∨
          (¬ s.grants.Covers scope ∧ (asked = [scope] ∨
            ∃ parent, asked = [scope, parent] ∧ parent ≠ "" ∧ scope = parent ++ ".readonly" ∧
              ∃ e u, (tokens scope).Fails s e u ∧ e.isUnauthorized = true))) ∧
        (∀ e, r = .error e → t.grants = s.grants ∧ ∃ u, (tokens scope).Fails s e u) ∧
        (∀ grant, r = .ok grant → grant.Serves scope ∧
          ((grant ∈ s.grants.current ∧ asked = [] ∧ t = s) ∨
            (¬ s.grants.Covers scope ∧ s.grants.find? grant.scope = none ∧
              t.grants.current = grant :: s.grants.current)))) ∧
      (∀ parent e t e' u, ¬ s.grants.Covers scope → Scope.parent? scope = some parent →
        (tokens scope).Fails s e t → e.isUnauthorized = true → (tokens parent).Fails t e' u →
          (obtain tokens scope).Fails s e u) ∧
      ∀ a : ServiceAccount ω, a.tokens.IsFaithful ∧
        ∀ e t, (a.tokens scope).Fails s e t →
          (e.isUnauthorized = true ↔
            ∃ response u, (a.answer scope).Returns s response u ∧
              ServiceAccount.IsRefusal response) := by
  refine ⟨fun r t' ↦ ?_, fun r t ↦ outcome_obtain_iff, fun asked r t h ↦ ⟨h.asked_cases, ?_, ?_⟩,
    ?_, fun a ↦ ⟨a.isFaithful, fun e t h ↦ ServiceAccount.isUnauthorized_iff_isRefusal h⟩⟩
  · rw [outcome_obtain_iff]
    exact exists_congr fun asked ↦ course_recorded_iff
  · rintro e rfl
    exact h.of_error hfaithful
  · rintro grant rfl
    exact h.of_ok hfaithful
  · intro parent e t e' u hnone hparent h hrefused hwide
    exact fails_obtain_of_fails hnone hparent h hrefused hwide

/-- A source that refuses the groups to a reader and grants every other scope. -/
def widerOnly : TokenSource Unit := fun scope ↦
  if scope = Scope.groups then throw (.unauthorized scope "unauthorized_client")
  else pure ⟨"token", none, scope⟩

theorem isFaithful_widerOnly : widerOnly.IsFaithful where
  scope_eq {scope s t token} h := by
    rw [widerOnly] at h
    split at h
    · exact absurd h returns_throw
    · rw [← (returns_pure.1 h).1]
  grants_eq {scope s t r} h := by
    rw [widerOnly] at h
    split at h
    · cases h
      rfl
    · cases h
      rfl

/-- Where the groups are refused to a reader, they are asked for to write as well. -/
theorem exists_course_widerOnly :
    ∃ grant t, Course widerOnly Scope.groups (.start () .epoch)
      [Scope.groups, "https://www.googleapis.com/auth/admin.directory.group"] (.ok grant) t :=
  ⟨_, _, .granted rfl (.widened (by decide +kernel) rfl rfl rfl)⟩

/-- That is what the record shows, and what is granted is the only grant. -/
theorem obtain_course_widerOnly :
    widerOnly.IsFaithful ∧
      ∃ (grant : Grant) (t : Session Unit), (obtain widerOnly.recorded Scope.groups).outcome
          ((Session.start () .epoch).beside []) = .ok (.ok grant, t.beside
            [Scope.groups, "https://www.googleapis.com/auth/admin.directory.group"]) ∧
        grant.Serves Scope.groups ∧ t.grants.current = [grant] := by
  obtain ⟨grant, t, hcourse⟩ := exists_course_widerOnly
  obtain ⟨hrecorded, -, hleft, -⟩ :=
    obtain_course isFaithful_widerOnly Scope.groups (.start () .epoch) []
  have houtcome := (hrecorded _ _).2 ⟨_, t, rfl, hcourse⟩
  obtain ⟨-, -, hgrant⟩ := hleft _ _ _ hcourse
  obtain ⟨hserves, ⟨hmem, -⟩ | ⟨-, -, hcurrent⟩⟩ := hgrant grant rfl
  · exact absurd hmem List.not_mem_nil
  · exact ⟨isFaithful_widerOnly, grant, t, houtcome, hserves, hcurrent⟩

end Grants

end AuditFeed
