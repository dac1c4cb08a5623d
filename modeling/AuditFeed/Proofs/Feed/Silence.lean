import AuditFeed.Connector
import AuditFeed.Proofs.Cursor.Token
import AuditFeed.Proofs.Moves

/-!
# Silence after a cancellation

A caller who cancels wants nothing sent any more. Two arguments make that sure, and neither of them
looks at what the parts of a connector are for.

## What is noted

What a poll does to its session are moves of a session (`AuditFeed.Proofs.Moves`), and no move sends
a request or begins a pause for a caller who has cancelled. So nothing follows the cancellation in
what is noted, wherever in the poll it falls. That holds of every poll that ends, with its page or
with an error.

## Polls that start cancelled

A poll whose caller has cancelled before it starts has to end as well. `Call.Settles` says how a
call ends from such a session. Most parts end somehow: a token may still be at hand, or be had
without the network. Sending a request is what always fails, and no page is had without sending one
(`Provider.refuses_activities`). `Refuses` is the case in which nothing may be returned, and
`Settles.bind` lets a call that refuses stand anywhere in a sequence.

The one thing that can come before that and go wrong is the start of a feed that has not been read:
where the lag reaches back beyond all times there is no such start, and the poll ends without an
answer. This is not ruled out by the check of a configuration (`overflow_longLag`), so the main
statement names it as the exact condition. A token that is refused comes still earlier, and such a
poll is an error whatever the lag is.

## Main statements

* `Connector.silent_after_cancel`: what is noted of a poll, and when a poll of a caller who has
  cancelled is an error.
-/

namespace AuditFeed

open Call

variable {ω : Type}

namespace Call

variable {ε ε' α β : Type} {c : Call ω ε α} {P : α → Prop} {Q : β → Prop}

/-- **From a session whose caller has cancelled** the call ends, in a session whose caller has, and
what it returns satisfies `P`. -/
def Settles (P : α → Prop) (c : Call ω ε α) : Prop :=
  ∀ s, s.cancelled = true →
    ∃ r t, c.outcome s = .ok (r, t) ∧ t.cancelled = true ∧ ∀ a, r = .ok a → P a

/-- From a session whose caller has cancelled the call fails. -/
abbrev Refuses (c : Call ω ε α) : Prop :=
  c.Settles fun _ ↦ False

/-- A call that refuses has an error. -/
theorem Refuses.fails (h : c.Refuses) {s : Session ω} (hs : s.cancelled = true) :
    ∃ e t, c.Fails s e t := by
  obtain ⟨r, t, hc, -, hr⟩ := h s hs
  cases r with
  | error e => exact ⟨e, t, hc⟩
  | ok a => exact (hr a rfl).elim

namespace Settles

/-! ### Rules -/

/-- A value is returned, whoever has cancelled. -/
theorem pure {a : α} (h : P a) : (Pure.pure a : Call ω ε α).Settles P :=
  fun s hs ↦ ⟨.ok a, s, outcome_pure a s, hs, fun _ hb ↦ Except.ok.inj hb ▸ h⟩

/-- An error is thrown, and nothing is returned. -/
theorem throw (e : ε) : (throw e : Call ω ε α).Settles P :=
  fun s hs ↦ ⟨.error e, s, outcome_throw e s, hs, nofun⟩

theorem ofExcept {r : Except ε α} (h : ∀ a, r = .ok a → P a) :
    (Call.ofExcept r : Call ω ε α).Settles P :=
  fun s hs ↦ ⟨r, s, outcome_ofExcept r s, hs, h⟩

/-- Only what the first call may return has to be followed. -/
theorem bind {f : α → Call ω ε β} (h : c.Settles P) (hf : ∀ a, P a → (f a).Settles Q) :
    (c >>= f).Settles Q := by
  intro s hs
  obtain ⟨r, u, hc, hu, hr⟩ := h s hs
  cases r with
  | error e => exact ⟨.error e, u, by rw [outcome_bind, hc], hu, nofun⟩
  | ok a =>
    obtain ⟨r, t, hfa, ht, hr'⟩ := hf a (hr a rfl) u hu
    exact ⟨r, t, by rw [outcome_bind, hc]; exact hfa, ht, hr'⟩

/-- What is read of the session does not matter. -/
theorem get_bind {f : Session ω → Call ω ε α} (h : ∀ s, (f s).Settles P) :
    (get >>= f).Settles P := by
  intro s hs
  obtain ⟨r, t, hf, ht, hr⟩ := h s s hs
  exact ⟨r, t, by rw [outcome_bind, outcome_get]; exact hf, ht, hr⟩

/-- A change that leaves the cancellation alone. -/
theorem modify {f : Session ω → Session ω} (h : ∀ s, (f s).cancelled = s.cancelled) :
    (modify f : Call ω ε PUnit).Settles fun _ ↦ True :=
  fun s hs ↦ ⟨.ok ⟨⟩, f s, outcome_modify f s, (h s).trans hs, fun _ _ ↦ trivial⟩

/-- Another error in the place of a call's own changes nothing that is returned. -/
theorem mapError (f : ε → ε') (h : c.Settles P) : (c.mapError f).Settles P := by
  intro s hs
  obtain ⟨r, t, hc, ht, hr⟩ := h s hs
  refine ⟨r.mapError f, t, by rw [outcome_mapError, hc]; rfl, ht, fun a ha ↦ ?_⟩
  cases r with
  | error e => cases ha
  | ok b =>
    cases ha
    exact hr _ rfl

/-- An attempt returns whichever way the call ends. -/
theorem attempt (h : c.Settles P) :
    (c.attempt : Call ω ε' (Except ε α)).Settles fun _ ↦ True := by
  intro s hs
  obtain ⟨r, t, hc, ht, -⟩ := h s hs
  exact ⟨.ok r, t, by rw [outcome_attempt, hc]; rfl, ht, fun _ _ ↦ trivial⟩

end Settles

end Call

/-! ### Requests and tokens -/

/-- **Nothing is sent for a caller who has cancelled.** -/
theorem Network.refuses_send (net : Network ω) (policy : RetryPolicy) (request : Http.Request) :
    (net.send policy request).Refuses :=
  fun _ hs ↦ ⟨.error .cancelled, _, (Ends.atEntry hs).outcome_send, hs, nofun⟩

/-- An answer that needs no network may still be given. -/
theorem Replies.settles_ask {κ ε α : Type} (replies : Replies ω κ ε α) (gone : ε) (key : κ) :
    (replies.ask gone key).Settles fun _ ↦ True := by
  intro s hs
  rw [outcome_ask]
  split
  · exact ⟨_, s, rfl, hs, fun _ _ ↦ trivial⟩
  · dsimp only
    split
    · exact ⟨_, _, rfl, Session.cancelled_cancel _, fun _ _ ↦ trivial⟩
    · exact ⟨_, _, rfl, Session.cancelled_cancel _, fun _ _ ↦ trivial⟩
    · exact ⟨_, _, rfl, hs, fun _ _ ↦ trivial⟩

/-- A service account has to send for its tokens, so it gives none. -/
theorem ServiceAccount.refuses_tokens (a : ServiceAccount ω) (scope : String) :
    (a.tokens scope).Refuses := by
  rw [tokens]
  refine Settles.get_bind fun s ↦ ?_
  refine Settles.bind (P := fun _ ↦ True) (.ofExcept fun _ _ ↦ trivial) fun assertion _ ↦ ?_
  refine Settles.bind (P := fun _ ↦ True) (.ofExcept fun _ _ ↦ trivial) fun request _ ↦ ?_
  exact Settles.bind ((a.network.refuses_send a.policy request).mapError _) fun _ h ↦ h.elim

/-- Another source of tokens may give one. -/
theorem TokenSupply.settles_source (x : TokenSupply ω) (scope : String) :
    (x.source scope).Settles fun _ ↦ True := by
  cases x with
  | replies r => exact r.settles_ask _ scope
  | account a =>
    intro s hs
    obtain ⟨r, t, hc, ht, -⟩ := a.refuses_tokens scope s hs
    exact ⟨r, t, hc, ht, fun _ _ ↦ trivial⟩

namespace Grants

variable {tokens : TokenSource ω}

/-- A wider scope may be asked for as well. -/
theorem settles_request (h : ∀ scope, (tokens scope).Settles fun _ ↦ True) (scope : String) :
    (request tokens scope).Settles fun _ ↦ True := by
  rw [request]
  refine Settles.bind (h scope).attempt fun answer _ ↦ ?_
  cases answer with
  | ok token => exact .pure trivial
  | error e =>
    dsimp only
    split
    · split
      · refine Settles.bind (h _).attempt fun answer _ ↦ ?_
        cases answer with
        | ok token => exact .pure trivial
        | error _ => exact .throw e
      · exact .throw e
    · exact .throw e

/-- A token that was had is kept. -/
theorem settles_keep (token : Token) :
    (keep token : Call ω AuthError Grant).Settles fun _ ↦ True :=
  fun _ hs ↦ ⟨_, _, rfl, hs, fun _ _ ↦ trivial⟩

/-- A grant may be held already, or be had without the network. -/
theorem settles_obtain (h : ∀ scope, (tokens scope).Settles fun _ ↦ True) (scope : String) :
    (obtain tokens scope).Settles fun _ ↦ True := by
  rw [obtain]
  refine Settles.get_bind fun s ↦ ?_
  split
  · exact .pure trivial
  · exact Settles.bind (settles_request h scope) fun token _ ↦ settles_keep token

/-- So may its token. -/
theorem settles_bearer (h : ∀ scope, (tokens scope).Settles fun _ ↦ True) (grant : Grant) :
    (bearer tokens grant).Settles fun _ ↦ True := by
  rw [bearer]
  refine Settles.get_bind fun s ↦ ?_
  dsimp only
  split
  · refine Settles.bind (h _) fun token _ ↦ ?_
    exact Settles.bind (.modify fun _ ↦ rfl) fun _ _ ↦ .pure trivial
  · exact .pure trivial

end Grants

/-! ### Pages -/

namespace Provider

variable {p : Provider ω} {α : Type} (htokens : ∀ scope, (p.tokens scope).Settles fun _ ↦ True)
include htokens

/-- A request may get its token. -/
theorem settles_authorized (grant : Grant) (url : Url) :
    (p.authorized grant url).Settles fun _ ↦ True := by
  rw [authorized]
  refine Settles.bind ((Grants.settles_bearer htokens grant).mapError _) fun secret _ ↦ ?_
  dsimp only
  split
  · exact .pure trivial
  · exact .throw _

/-- It is not sent then. -/
theorem refuses_fetch (d : Json.Document α) (grant : Grant) (url : Url) :
    (p.fetch d grant url).Refuses := by
  rw [fetch]
  refine Settles.bind (settles_authorized htokens grant url) fun request _ ↦ ?_
  exact Settles.bind (p.network.refuses_send p.policy request) fun _ h ↦ h.elim

/-- **No page is had without sending a request.** -/
theorem refuses_activities (query : ActivityQuery) : (p.activities query).Refuses := by
  rw [activities]
  refine Settles.bind ((Grants.settles_obtain htokens _).mapError _) fun grant _ ↦ ?_
  rw [listActivities]
  refine Settles.bind (P := fun _ ↦ True) ?_ fun url _ ↦ refuses_fetch htokens _ grant _
  rw [requestUrl]
  split
  · exact .pure trivial
  · exact .throw _

end Provider

/-! ### Polls -/

namespace Connector

variable (config : ConnectorConfig) (tokens : TokenSupply ω) (network : Network ω)
  (policy : RetryPolicy) (kind : FeedKind)

/-- A feed of a connector. -/
def feedOf : Feed ω :=
  (withTokens config tokens.source network policy).feed kind

variable {config tokens network policy kind}

/-- A poll makes moves of a session. -/
theorem takes_poll (token : String) (requested : UInt32) (start : Option Instant) :
    ((feedOf config tokens network policy kind).poll token requested start).Takes
      (Session.Move (fun _ ↦ True) fun _ _ ↦ True) := by
  have htokens : ∀ scope, (tokens.source scope).Takes
      (Session.Move (fun _ ↦ True) fun _ _ ↦ True) := tokens.takes_source fun _ _ ↦ trivial
  refine Feed.takes_poll (fun query ↦ ?_) (fun type email ↦ ?_) token requested start
  · exact Provider.takes_activities htokens query fun _ _ _ _ _ ↦ trivial
  · refine Directory.takes_resolve (fun type email ↦ ?_) type email fun s answer t u _ ↦ ?_
    · exact Provider.takes_directory htokens type email fun _ _ ↦ trivial
    · exact .keep u trivial

/-- A page that is asked for after the cancellation is not had, and no email is resolved. -/
theorem fails_activities {s : Session ω} (hs : s.cancelled = true) (query : ActivityQuery) :
    ∃ e t, ((feedOf config tokens network policy kind).source query).Fails s e t ∧
      t.trace = s.trace ∧ t.ids = s.ids := by
  have hrefuses : ((feedOf config tokens network policy kind).source query).Refuses :=
    Provider.refuses_activities tokens.settles_source query
  have htokens : ∀ scope, (tokens.source scope).Takes
      (Session.Move (fun _ ↦ True) fun _ _ ↦ False) := tokens.takes_source fun _ _ ↦ trivial
  obtain ⟨e, t, hfails⟩ := hrefuses.fails hs
  have hmoves := Provider.takes_activities htokens query (fun _ _ _ _ _ ↦ trivial) s _ t hfails
  obtain ⟨work, hwork⟩ := Session.exists_notes_of_moves hmoves
  obtain ⟨rfl, -⟩ := hwork.idle hs
  refine ⟨e, t, hfails, ?_, Session.ids_eq_of_moves hmoves⟩
  rw [hwork.trace, hs]
  simp

/-- **Nothing is sent after a cancellation.** Of a poll that ends, whether with its page or with an
error, the requests and pauses that are noted are all noted before the cancellation, if there is
one, and there are none if the caller had cancelled at the start. A poll whose caller had cancelled
at the start ends with an error, has sent nothing and keeps no answer, exactly if its token is
refused or its start is a time. -/
theorem silent_after_cancel (config : ConnectorConfig) (tokens : TokenSupply ω)
    (network : Network ω) (policy : RetryPolicy) (kind : FeedKind) (token : String)
    (requested : UInt32) (start : Option Instant) (s : Session ω) :
    let feed := feedOf config tokens network policy kind
    (∀ r t, (feed.poll token requested start).outcome s = .ok (r, t) →
      ∃ work, .cancel ∉ work ∧ (s.cancelled = true → work = []) ∧
        t.trace = s.trace ++ work ++ if t.cancelled && !s.cancelled then [.cancel] else []) ∧
    (s.cancelled = true →
      ((∃ e t, (feed.poll token requested start).Fails s e t ∧ t.trace = s.trace ∧ t.ids = s.ids) ↔
        ∀ given, Cursor.decode token = .ok given → (feed.begin? start s.now).isSome)) := by
  intro feed
  refine ⟨fun r t h ↦ ?_, fun hs ↦ ⟨?_, fun hbegin ↦ ?_⟩⟩
  · obtain ⟨work, hwork⟩ :=
      Session.exists_notes_of_moves (takes_poll token requested start s r t h)
    exact ⟨work, hwork.cancel_not_mem, fun hs ↦ (hwork.idle hs).1, hwork.trace⟩
  · rintro ⟨e, t, hfails, -⟩ given hdecode
    by_contra hnone
    -- Without a time to start from the poll ends without any result, so it does not fail.
    have hoverflow := Feed.outcome_poll_of_begin_none hdecode
      (Option.not_isSome_iff_eq_none.1 hnone) requested
    cases hfails.symm.trans hoverflow
  · cases hdecode : Cursor.decode token with
    | error e => exact ⟨e, s, Feed.fails_poll_of_decode hdecode requested start s, rfl, rfl⟩
    | ok given =>
      obtain ⟨begin, hbegin⟩ := Option.isSome_iff_exists.1 (hbegin given hdecode)
      obtain ⟨e, t, hfails, htrace, hids⟩ : ∃ e t, (feed.source _).Fails s e t ∧ _ :=
        fails_activities hs (feed.query (feed.opened given begin requested))
      exact ⟨_, t, Feed.fails_poll_of_source hdecode hbegin hfails, htrace, hids⟩

/-- A configuration that looks back further than times go. -/
def longLag : ConnectorConfig :=
  { ConnectorConfig.basic "admin@example.com" (.inline "\x7b\x7d") with
    customerId := some "C0123abcd", lag := .ofSeconds 8400000000000 }

/-- Gives no scope a token. -/
def noTokens : TokenSupply Unit :=
  .replies ⟨fun scope peer ↦ (⟨.error (.unauthorized scope "denied"), none⟩, peer), true⟩

/-- **A checked configuration with which a cancelled poll is no error**: its lag reaches back beyond
all times, so the poll overflows before it asks for anything. -/
theorem overflow_longLag :
    longLag.validate = .ok () ∧
      ∃ s : Session Unit, s.cancelled = true ∧
        let feed := feedOf longLag noTokens .offline .standard .admin
        (feed.poll "" 0 none).outcome s = .error .time ∧
          ¬ ∃ e t, (feed.poll "" 0 none).Fails s e t := by
  have hbegin : (feedOf longLag noTokens .offline .standard .admin).begin? none .epoch = none := by
    decide +kernel
  have hoverflow := Feed.outcome_poll_of_begin_none (s := (Session.start () .epoch).cancel)
    Cursor.decode_empty hbegin 0
  have hfault : longLag.fault = none := by decide +kernel
  refine ⟨by rw [ConnectorConfig.validate, hfault], _, rfl, hoverflow, ?_⟩
  rintro ⟨e, t, hfails⟩
  cases hfails.symm.trans hoverflow

end Connector

end AuditFeed
