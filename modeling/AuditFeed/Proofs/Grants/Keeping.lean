import AuditFeed.Proofs.Grants.Asking
import Mathlib.Data.List.Nodup
import Mathlib.Logic.Relation

/-!
# How long a grant lasts

Grants are never given up. A scope that was had once is had from then on without asking, from
whatever source (`Grants.obtained_once`).

## One step

A step of the connector leaves the grants as they are, adds one of a scope that was not granted yet,
or renews the token of one that is held (`Grants.Change`). That a grant is only added where its
scope is new rests on both probes of `Grants.serving?` having missed, since the token is for the
scope or for its parent. Each change keeps what is held under a scope there, with its number
(`Grants.Change.isKeptBy`), and keeps the grants tidy (`Grants.Change.isTidy`).

## Any number of steps

`Grants.Visits` is a run of such steps, with whatever else goes on between them. What one change
preserves is preserved by a run, by induction on its length.

The grant that serves a scope need not be the same one at all times: a scope with the ending twice
is served by its parent until it is granted itself. So what is promised of later times is a grant
that serves the scope, and the same grant only under its own scope.

## Main statements

* `Grants.isTidy_of_visits`, `Grants.isKeptBy_of_visits`: what a run preserves.
* `Grants.obtained_once`: what holds of the grants in every run, and what a run cannot take back.
-/

namespace AuditFeed.Grants

open Call Relation

variable {ω : Type} {g g' : Grants} {grant : Grant} {scope : String}

/-! ### Changes of the grants -/

/-- What a step changes of the grants. -/
inductive Change (g : Grants) : Grants → Prop
  /-- Nothing. -/
  | same : Change g g
  /-- A token makes a grant of a new scope. -/
  | added {token : Token} (hnew : g.find? token.scope = none) : Change g (g.adding token)
  /-- A grant that is held gets another token for its scope. -/
  | renewed {held : Grant} {token : Token} (hheld : g.find? held.scope = some held)
      (hscope : token.scope = held.scope) : Change g (g.insert { held with token })

/-- What holds of the grants at all times: each has a token for its scope, and no two have the same
scope or the same number. -/
structure IsTidy (g : Grants) : Prop where
  token_scope : ∀ grant ∈ g.current, grant.token.scope = grant.scope
  scopes_nodup : (g.current.map (·.scope)).Nodup
  numbers_nodup : (g.current.map (·.number)).Nodup
  number_lt : ∀ grant ∈ g.current, grant.number < g.count

/-- Each grant of `g` is one of `g'`, under the same scope and with the same number. -/
def IsKeptBy (g g' : Grants) : Prop :=
  ∀ scope grant, g.find? scope = some grant →
    ∃ later, g'.find? scope = some later ∧ later.number = grant.number

/-- A grant is found under its scope, and under every other one what was found before. -/
theorem find?_insert (g : Grants) (grant : Grant) (scope : String) :
    (g.insert grant).find? scope = if grant.scope = scope then some grant else g.find? scope := by
  rw [find?, insert, List.find?_cons]
  split
  · rename_i h
    rw [if_pos (of_decide_eq_true h)]
  · rename_i h
    have hne : grant.scope ≠ scope := of_decide_eq_false h
    rw [if_neg hne, List.find?_filter, find?]
    congr 1
    funext other
    by_cases hother : other.scope = scope
    · simp [hother, hne.symm]
    · simp [hother]

/-- The grant that a token makes is found under the scope of the token. -/
theorem find?_adding (g : Grants) (token : Token) (scope : String) :
    (g.adding token).find? scope =
      if token.scope = scope then some (g.made token) else g.find? scope :=
  find?_insert g (g.made token) scope

namespace IsKeptBy

theorem refl (g : Grants) : g.IsKeptBy g :=
  fun _ grant h ↦ ⟨grant, h, rfl⟩

theorem trans {g'' : Grants} (h : g.IsKeptBy g') (h' : g'.IsKeptBy g'') : g.IsKeptBy g'' := by
  intro scope grant hgrant
  obtain ⟨later, hlater, hnumber⟩ := h scope grant hgrant
  obtain ⟨last, hlast, hnumber'⟩ := h' scope later hlater
  exact ⟨last, hlast, hnumber'.trans hnumber⟩

end IsKeptBy

namespace Change

/-- A grant of a new scope takes the place of none. -/
theorem find?_adding_of_find? {token : Token} (hnew : g.find? token.scope = none)
    (h : g.find? scope = some grant) : (g.adding token).find? scope = some grant := by
  have hne : token.scope ≠ scope := by
    rintro rfl
    cases hnew.symm.trans h
  rw [find?_adding, if_neg hne, h]

/-- **A change keeps every grant** where it is held, with its number. -/
theorem isKeptBy (h : Change g g') : g.IsKeptBy g' := by
  intro scope grant hgrant
  cases h with
  | same => exact ⟨grant, hgrant, rfl⟩
  | added hnew => exact ⟨grant, find?_adding_of_find? hnew hgrant, rfl⟩
  | @renewed held token hheld _ =>
    rw [find?_insert]
    split
    · rename_i hscope
      obtain rfl : held.scope = scope := hscope
      cases hheld.symm.trans hgrant
      exact ⟨_, rfl, rfl⟩
    · exact ⟨grant, hgrant, rfl⟩

/-- Renewing a grant keeps its number, and no other grant has it. -/
theorem isTidy (h : Change g g') (hg : g.IsTidy) : g'.IsTidy := by
  cases h with
  | same => exact hg
  | @added token hnew =>
    have hcurrent : (g.adding token).current = g.made token :: g.current := current_adding hnew
    have hbelow := hg.number_lt
    constructor
    · rw [hcurrent]
      exact List.forall_mem_cons.2 ⟨rfl, hg.token_scope⟩
    · rw [hcurrent, List.map_cons, List.nodup_cons]
      refine ⟨fun hmem ↦ ?_, hg.scopes_nodup⟩
      obtain ⟨other, hother, hscope⟩ := List.mem_map.1 hmem
      exact find?_eq_none_iff.1 hnew other hother hscope
    · rw [hcurrent, List.map_cons, List.nodup_cons]
      refine ⟨fun hmem ↦ ?_, hg.numbers_nodup⟩
      obtain ⟨other, hother, hnumber⟩ := List.mem_map.1 hmem
      exact absurd hnumber (Nat.ne_of_lt (hbelow other hother))
    · rw [hcurrent]
      exact List.forall_mem_cons.2
        ⟨Nat.lt_succ_self _, fun other hother ↦ Nat.lt_succ_of_lt (hbelow other hother)⟩
  | @renewed held token hheld hscope =>
    obtain ⟨hmem, -⟩ := of_find? hheld
    have hothers {other : Grant} (h : other ∈ g.current.filter (·.scope ≠ held.scope)) :
        other ∈ g.current ∧ other.scope ≠ held.scope := by
      simpa using h
    constructor
    · exact List.forall_mem_cons.2 ⟨hscope, fun other h ↦ hg.token_scope other (hothers h).1⟩
    · refine List.nodup_cons.2 ⟨fun h ↦ ?_, hg.scopes_nodup.sublist (List.filter_sublist.map _)⟩
      obtain ⟨other, hother, hsame⟩ := List.mem_map.1 h
      exact (hothers hother).2 hsame
    · refine List.nodup_cons.2 ⟨fun h ↦ ?_, hg.numbers_nodup.sublist (List.filter_sublist.map _)⟩
      obtain ⟨other, hother, hsame⟩ := List.mem_map.1 h
      obtain ⟨hother, hne⟩ := hothers hother
      exact hne (congrArg _ (List.inj_on_of_nodup_map hg.numbers_nodup hother hmem hsame))
    · exact List.forall_mem_cons.2
        ⟨hg.number_lt held hmem, fun other h ↦ hg.number_lt other (hothers h).1⟩

end Change

/-! ### Runs -/

variable {tokens : TokenSource ω} {s t u : Session ω}

/-- A step of a run: a scope is had or not, the token of a grant that is held is used and perhaps
renewed, or something goes on that does not touch the grants. -/
inductive Visit (tokens : TokenSource ω) (s : Session ω) : Session ω → Prop
  | obtain {scope : String} {r : Except AuthError Grant} {t : Session ω}
      (h : (obtain tokens scope).outcome s = .ok (r, t)) : Visit tokens s t
  | bearer {grant held : Grant} {r : Except AuthError String} {t : Session ω}
      (hheld : s.grants.find? grant.scope = some held)
      (h : (bearer tokens grant).outcome s = .ok (r, t)) : Visit tokens s t
  | elapse {t : Session ω} (h : t.grants = s.grants) : Visit tokens s t

/-- Everything that happens to the grants between two sessions. -/
abbrev Visits (tokens : TokenSource ω) : Session ω → Session ω → Prop :=
  ReflTransGen (Visit tokens)

section

variable (hfaithful : tokens.IsFaithful)
include hfaithful

/-- Obtaining adds a grant of a new scope, or changes nothing. -/
theorem change_obtain {r : Except AuthError Grant}
    (h : (obtain tokens scope).outcome s = .ok (r, t)) : Change s.grants t.grants := by
  obtain ⟨asked, hcourse⟩ := outcome_obtain_iff.1 h
  cases hcourse with
  | held => exact .same
  | granted hnone hasks =>
    rw [← hasks.grants_eq hfaithful]
    exact .added (hasks.find?_eq_none hfaithful hnone)
  | failed _ hasks =>
    rw [hasks.grants_eq hfaithful]
    exact .same

/-- Using a grant renews its token, or changes nothing. -/
theorem change_bearer {held : Grant} {r : Except AuthError String}
    (hheld : s.grants.find? grant.scope = some held)
    (h : (bearer tokens grant).outcome s = .ok (r, t)) : Change s.grants t.grants := by
  rw [bearer, outcome_bind, outcome_get] at h
  dsimp only at h
  rw [hheld, Option.getD_some] at h
  split at h
  · rw [outcome_bind] at h
    rcases htoken : (tokens held.scope).outcome s with o | ⟨e | token, u⟩ <;>
      rw [htoken] at h <;> cases h
    · rw [hfaithful.grants_eq htoken]
      exact .same
    · obtain ⟨-, hscope⟩ := of_find? hheld
      rw [← hscope] at hheld
      have hchange : Change s.grants (s.grants.insert { held with token }) :=
        .renewed hheld (hfaithful.scope_eq htoken)
      rw [← hfaithful.grants_eq htoken] at hchange ⊢
      exact hchange
  · cases h
    exact .same

/-- A step of a run changes the grants in one of the three ways. -/
theorem Visit.change (h : Visit tokens s t) : Change s.grants t.grants := by
  cases h with
  | obtain h => exact change_obtain hfaithful h
  | bearer hheld h => exact change_bearer hfaithful hheld h
  | elapse h =>
    rw [h]
    exact .same

/-- The grants stay tidy. -/
theorem isTidy_of_visits (h : Visits tokens s t) (hs : s.grants.IsTidy) : t.grants.IsTidy := by
  induction h with
  | refl => exact hs
  | tail _ hlast ih => exact (hlast.change hfaithful).isTidy ih

/-- No grant is given up. -/
theorem isKeptBy_of_visits (h : Visits tokens s t) : s.grants.IsKeptBy t.grants := by
  induction h with
  | refl => exact .refl _
  | tail _ hlast ih => exact ih.trans (hlast.change hfaithful).isKeptBy

/-- What was obtained serves the scope and is held. -/
theorem held_of_returns_obtain (h : (obtain tokens scope).Returns s grant t) :
    grant.Serves scope ∧ t.grants.find? grant.scope = some grant := by
  obtain ⟨asked, hcourse⟩ := outcome_obtain_iff.1 h
  cases hcourse with
  | held hserving => exact (of_serving? hserving).symm
  | granted hnone hasks =>
    refine ⟨hasks.token_scope hfaithful, ?_⟩
    exact (find?_adding _ _ _).trans (if_pos rfl)

end

/-- No grants are tidy. -/
theorem isTidy_empty : Grants.empty.IsTidy := by
  constructor <;> simp [Grants.empty]

/-- A grant that is held serves its scopes, from whatever source. -/
theorem exists_returns_obtain (h : s.grants.Covers scope) :
    ∃ later, later.Serves scope ∧
      ∀ tokens : TokenSource ω, (obtain tokens scope).Returns s later s := by
  rcases hserving : s.grants.serving? scope with _ | later
  · exact absurd h (serving?_eq_none_iff.1 hserving)
  · exact ⟨later, (of_serving? hserving).2, fun tokens ↦ returns_obtain_of_serving? tokens hserving⟩

/-- **A scope that was obtained once is had from then on.** Take any run over a faithful source from
no grants at all:

* what is held under a scope is a grant of that scope with a token for it, and no two grants have
  the same scope or the same number;
* from then on each grant stays where it is, with its number, and obtaining a scope does not even
  change its token;
* a grant that is obtained serves the scope, and at every later time there is one that does and that
  is given without asking: from any source, and without a change of the session. -/
theorem obtained_once (hfaithful : tokens.IsFaithful) (hs : s.grants = .empty)
    (hrun : Visits tokens s t) :
    ((∀ scope grant, t.grants.find? scope = some grant →
        grant.scope = scope ∧ grant.token.scope = scope) ∧ t.grants.IsTidy) ∧
      (∀ u, Visits tokens t u → t.grants.IsKeptBy u.grants) ∧
      (∀ scope r u, (obtain tokens scope).outcome t = .ok (r, u) →
        ∀ held grant, t.grants.find? held = some grant → u.grants.find? held = some grant) ∧
      ∀ scope grant u, (obtain tokens scope).Returns t grant u → grant.Serves scope ∧
        ∀ v, Visits tokens u v → ∃ later : Grant, later.Serves scope ∧
          ∀ source : TokenSource ω, (obtain source scope).Returns v later v := by
  have htidy : t.grants.IsTidy := isTidy_of_visits hfaithful hrun (hs ▸ isTidy_empty)
  refine ⟨⟨fun scope grant h ↦ ?_, htidy⟩, fun u h ↦ isKeptBy_of_visits hfaithful h, ?_, ?_⟩
  · obtain ⟨hmem, rfl⟩ := of_find? h
    exact ⟨rfl, htidy.token_scope grant hmem⟩
  · intro scope r u h held grant hgrant
    obtain ⟨asked, hcourse⟩ := outcome_obtain_iff.1 h
    cases hcourse with
    | held => exact hgrant
    | granted hnone hasks =>
      rw [← hasks.grants_eq hfaithful] at hgrant
      exact Change.find?_adding_of_find? (hasks.find?_eq_none hfaithful hnone) hgrant
    | failed _ hasks =>
      rw [hasks.grants_eq hfaithful]
      exact hgrant
  · intro scope grant u h
    obtain ⟨hserves, hheld⟩ := held_of_returns_obtain hfaithful h
    refine ⟨hserves, fun v hlater ↦ exists_returns_obtain ?_⟩
    obtain ⟨later, hfind, -⟩ := isKeptBy_of_visits hfaithful hlater _ _ hheld
    obtain ⟨hmem, hscope⟩ := of_find? hfind
    refine ⟨later, hmem, ?_⟩
    rw [Grant.Serves, hscope]
    exact hserves

/-- The groups that were refused to a reader are had without asking for them again, also by a
caller who has cancelled and from a source that refuses them. -/
theorem obtained_once_widerOnly :
    widerOnly.IsFaithful ∧ (Session.start () .epoch).grants = .empty ∧
      ∃ t : Session Unit, Visits widerOnly (.start () .epoch) t ∧ t.cancelled = true ∧
        ∃ later : Grant, later.Serves Scope.groups ∧
          ∀ source : TokenSource Unit, (obtain source Scope.groups).Returns t later t := by
  obtain ⟨grant, t, hcourse⟩ := exists_course_widerOnly
  have hreturns : (obtain widerOnly Scope.groups).Returns (.start () .epoch) grant t :=
    outcome_obtain_iff.2 ⟨_, hcourse⟩
  obtain ⟨-, -, -, hlast⟩ :=
    obtained_once isFaithful_widerOnly (s := Session.start () .epoch) rfl .refl
  have hcancels : Visits widerOnly t { t with cancelled := true } := .single (.elapse rfl)
  exact ⟨isFaithful_widerOnly, rfl, _, hcancels.head (.obtain hreturns), rfl,
    (hlast _ _ _ hreturns).2 _ hcancels⟩

end AuditFeed.Grants
