import AuditFeed.Feed
import AuditFeed.Proofs.Calm
import AuditFeed.ServiceAccount.Grant

/-!
# Where pages, emails and tokens come from, with and without cancellation

A caller can cancel wherever something is waited for: before a request, while it is under way,
together with its answer, in the pause before it is sent again, and together with an answer that is
not had over the network. Each source here comes with its calm form, which gives the same answers to
the same requests and in which nobody cancels.

## The sources

A feed is given where its pages and its emails come from, as a `FeedSupply`. Either is one of two:

* `Replies` are answers by key that may depend on all that was asked before, and that may come with
  a cancellation. They stand for every source that is not had over the network. Such a source either
  heeds a caller who has cancelled or does not, and `heeds` says which.
* A `ProviderSupply` is a provider with a network below it, and with tokens from a `TokenSupply`,
  which are in turn answers by scope or those of a service account.

So a statement about every `FeedSupply` is about scripted pages with emails over the network as much
as about a feed that has both from the provider.

## Where an error is swallowed

Three places swallow an error: the wider scope is asked for where the narrow one is refused, the
narrow scope's refusal counts where the wider one fails, and an entry that is gone is an answer. A
cancellation is none of these errors (`calm_tokens`, `calm_fetch`), so it always comes through.

Each of the three is met by an error class that is kept up to there. `IsOther` holds of the errors
that refuse no scope, and `IsNoAnswer` of those that the provider has not sent. From a grant or a
lookup on nothing is swallowed any more, and the class is that of all errors.
-/

namespace AuditFeed

open Call

variable {ω : Type}

/-! ### The network -/

namespace Network

/-- The network without cancellation. -/
def calm (net : Network ω) : Network ω where
  exchange request peer :=
    (⟨(net.exchange request peer).1.outcome, none⟩, (net.exchange request peer).2)
  draw := net.draw

variable (net : Network ω)

/-- One attempt, told by what the other side makes of the request. -/
theorem outcome_sendOnce (request : Http.Request) (s : Session ω) :
    (net.sendOnce request).outcome s =
      if s.cancelled then .ok (.error .cancelled, s)
      else
        let x := (net.exchange request s.peer).1
        let t := { s with peer := (net.exchange request s.peer).2 }.note (.attempt request)
        match x.interruption with
        | some .inFlight => .ok (.error .cancelled, t.cancel)
        | some .withAnswer => .ok (.ok x.outcome, t.cancel)
        | none => .ok (.ok x.outcome, t) := by
  rw [sendOnce, outcome_bind, outcome_get]
  by_cases hs : s.cancelled = true
  · simp only [hs, if_true]
    rfl
  · simp only [hs]
    rcases hx : (net.exchange request s.peer).1.interruption with _ | (_ | _) <;> rfl

/-- What cancellation may put in the place of a response. -/
def IsCancelled (e : RequestError) : Prop :=
  e = .cancelled

/-- An attempt goes in step with the calm one, or the caller has cancelled. -/
theorem calm_sendOnce (request : Http.Request) :
    Calm IsCancelled (net.sendOnce request) (net.calm.sendOnce request) := by
  intro s s' hs r t hc
  have hcalm : (net.calm.sendOnce request).outcome s' =
      .ok (.ok (net.exchange request s.peer).1.outcome,
        { s' with peer := (net.exchange request s.peer).2 }.note (.attempt request)) := by
    rw [outcome_sendOnce, hs.cancelled, hs.peer]
    rfl
  have hnote := (hs.setPeer (net.exchange request s.peer).2).note (.attempt request)
    (.attempt request)
  rw [outcome_sendOnce] at hc
  split at hc
  · rename_i hcancelled
    cases hc
    exact .inr ⟨_, rfl, rfl, hcancelled⟩
  · dsimp only at hc
    split at hc
    · cases hc
      exact .inr ⟨_, rfl, rfl, Session.cancelled_cancel _⟩
    · cases hc
      exact .inl ⟨_, hcalm, hnote.cancel⟩
    · cases hc
      exact .inl ⟨_, hcalm, hnote⟩

/-- A pause, told by the length that is drawn for it. -/
theorem outcome_pause (policy : RetryPolicy) (attempt : Nat) (s : Session ω) :
    (net.pause policy attempt).outcome s =
      if s.cancelled then .ok (.error .cancelled, s)
      else
        let t := { s with peer := (net.draw s.peer).2 }.pause
          (policy.backoff attempt (net.draw s.peer).1)
        if t.cancelled then .ok (.error .cancelled, t) else .ok (.ok (), t) := by
  rw [pause, outcome_bind, outcome_get]
  dsimp only
  by_cases hs : s.cancelled = true
  · rw [if_pos hs, if_pos hs]
    rfl
  · rw [if_neg hs, if_neg hs]
    show (if (Session.pause { s with peer := (net.draw s.peer).2 }
      (policy.backoff attempt (net.draw s.peer).1)).cancelled then throw .cancelled else pure () :
        Call ω RequestError Unit).outcome _ = _
    split <;> rfl

/-- The same length is drawn in both runs, so a pause goes in step. -/
theorem calm_pause (policy : RetryPolicy) (attempt : Nat) :
    Calm IsCancelled (net.pause policy attempt) (net.calm.pause policy attempt) := by
  intro s s' hs r t hc
  have hpause := (hs.setPeer (net.draw s.peer).2).pause (policy.backoff attempt (net.draw s.peer).1)
  have hcalm : (net.calm.pause policy attempt).outcome s' =
      .ok (.ok (), { s' with peer := (net.draw s.peer).2 }.pause
        (policy.backoff attempt (net.draw s.peer).1)) := by
    rw [outcome_pause, if_neg (Bool.eq_false_iff.1 hs.cancelled), hs.peer]
    exact if_neg (Bool.eq_false_iff.1 hpause.cancelled)
  rw [outcome_pause] at hc
  split at hc
  · rename_i hcancelled
    cases hc
    exact .inr ⟨_, rfl, rfl, hcancelled⟩
  · dsimp only at hc
    split at hc
    · rename_i hcancelled
      cases hc
      exact .inr ⟨_, rfl, rfl, hcancelled⟩
    · cases hc
      exact .inl ⟨_, hcalm, hpause⟩

/-- **Sending goes in step**, however often and whatever for a request is sent again. -/
theorem calm_sendFrom (policy : RetryPolicy) (request : Http.Request) (left attempt : Nat) :
    Calm IsCancelled (net.sendFrom policy request left attempt)
      (net.calm.sendFrom policy request left attempt) := by
  induction left generalizing attempt with
  | zero =>
    rw [sendFrom, sendFrom]
    refine Calm.bind (net.calm_sendOnce request) fun answer ↦ ?_
    cases answer with
    | ok response => exact .pure response
    | error e => exact .throw _
  | succ left ih =>
    rw [sendFrom, sendFrom]
    refine Calm.bind (net.calm_sendOnce request) fun answer ↦ ?_
    cases answer with
    | ok response => exact .pure response
    | error e =>
      dsimp only
      split
      · exact Calm.bind (net.calm_pause policy attempt) fun _ ↦ ih (attempt + 1)
      · exact .throw _

/-- A request that is sent at all has all of its retries. -/
theorem calm_send (policy : RetryPolicy) (request : Http.Request) :
    Calm IsCancelled (net.send policy request) (net.calm.send policy request) :=
  net.calm_sendFrom policy request policy.maxRetries 0

end Network

/-! ### Answers that are not had over the network -/

/-- An answer, and when the caller cancels while waiting for it, if at all. -/
structure Reply (ε α : Type) where
  /-- The answer. -/
  answer : Except ε α
  /-- When the caller cancels. -/
  interruption : Option Interruption

/-- Answers by key, which may depend on all that was asked before. -/
structure Replies (ω κ ε α : Type) where
  /-- The answer to a key. -/
  reply : κ → ω → Reply ε α × ω
  /-- Is a caller who has cancelled told so, in place of the answer? -/
  heeds : Bool

namespace Replies

variable {κ ε α : Type} (replies : Replies ω κ ε α) (gone : ε)

/-- Asks for the answer to a key; `gone` tells the caller of a cancellation. -/
def ask (key : κ) : Call ω ε α := do
  let s ← get
  if s.cancelled && replies.heeds then throw gone
  let (reply, peer) := replies.reply key s.peer
  let s := { s with peer }
  match reply.interruption with
  | some .inFlight =>
    set s.cancel
    throw gone
  | some .withAnswer => set s.cancel
  | none => set s
  Call.ofExcept reply.answer

/-- The same answers without cancellation. -/
def calm : Replies ω κ ε α where
  reply key peer := (⟨(replies.reply key peer).1.answer, none⟩, (replies.reply key peer).2)
  heeds := replies.heeds

/-- An answer, told by what is replied to the key. -/
theorem outcome_ask (key : κ) (s : Session ω) :
    (replies.ask gone key).outcome s =
      if s.cancelled && replies.heeds then .ok (.error gone, s)
      else
        let x := (replies.reply key s.peer).1
        let t := { s with peer := (replies.reply key s.peer).2 }
        match x.interruption with
        | some .inFlight => .ok (.error gone, t.cancel)
        | some .withAnswer => .ok (x.answer, t.cancel)
        | none => .ok (x.answer, t) := by
  rw [ask, outcome_bind, outcome_get]
  dsimp only
  by_cases hs : (s.cancelled && replies.heeds) = true
  · rw [if_pos hs, if_pos hs]
    rfl
  · rw [if_neg hs, if_neg hs]
    rcases hx : (replies.reply key s.peer).1.interruption with _ | (_ | _) <;> rfl

/-- An answer that arrives is the same whether the caller cancels or not. -/
theorem calm_ask (key : κ) :
    Calm (fun e ↦ e = gone) (replies.ask gone key) (replies.calm.ask gone key) := by
  intro s s' hs r t hc
  have hpeer := hs.setPeer (replies.reply key s.peer).2
  have hcalm : (replies.calm.ask gone key).outcome s' = .ok ((replies.reply key s.peer).1.answer,
      { s' with peer := (replies.reply key s.peer).2 }) := by
    rw [outcome_ask, hs.cancelled, hs.peer]
    rfl
  rw [outcome_ask] at hc
  split at hc
  · rename_i hcancelled
    cases hc
    exact .inr ⟨_, rfl, rfl, (Bool.and_eq_true_iff.1 hcancelled).1⟩
  · dsimp only at hc
    split at hc
    · cases hc
      exact .inr ⟨_, rfl, rfl, Session.cancelled_cancel _⟩
    · cases hc
      exact .inl ⟨_, hcalm, hpeer.cancel⟩
    · cases hc
      exact .inl ⟨_, hcalm, hpeer⟩

end Replies

/-! ### Tokens -/

/-- Errors that are not swallowed where tokens are asked for: those that do not refuse a scope. -/
def IsOther (e : AuthError) : Prop :=
  e.isUnauthorized = false

namespace ServiceAccount

/-- The service account without cancellation. -/
def calm (a : ServiceAccount ω) : ServiceAccount ω :=
  { a with network := a.network.calm }

/-- Reading a token off a response waits for nothing. -/
theorem calm_readAnswer (scope : String) (response : Http.Response) (P : AuthError → Prop) :
    Calm P (readAnswer scope response : Call ω AuthError Token) (readAnswer scope response) := by
  rw [readAnswer]
  split
  · exact .throw _
  · split
    · split
      · refine Calm.get_bind fun s s' hs ↦ ?_
        rw [hs.now]
        exact Calm.checked _ s s' hs
      · exact .throw _
    · exact .throw _

/-- **A cancelled request for a token is no refusal of its scope.** -/
theorem calm_tokens (a : ServiceAccount ω) (scope : String) :
    Calm IsOther (a.tokens scope) (a.calm.tokens scope) := by
  rw [tokens, tokens]
  refine Calm.get_bind fun s s' hs ↦ ?_
  have hassertion : a.calm.assertion scope s'.now = a.assertion scope s.now := by
    rw [hs.now]
    rfl
  rw [hassertion]
  refine Calm.bind (.ofExcept _) (fun assertion ↦ ?_) s s' hs
  refine Calm.bind (.ofExcept _) fun request ↦ ?_
  refine Calm.bind ?_ fun response ↦ calm_readAnswer scope response _
  exact (a.network.calm_send a.policy request).mapError fun e he ↦ by rw [he]; rfl

end ServiceAccount

namespace Grants

variable {tokens tokens' : TokenSource ω}

/-- The wider scope is asked for in both runs or in none of them. -/
theorem calm_request (h : ∀ scope, Calm IsOther (tokens scope) (tokens' scope)) (scope : String) :
    Calm (fun _ ↦ True) (request tokens scope) (request tokens' scope) := by
  rw [request, request]
  refine Calm.attempt_bind (h scope) (fun r ↦ ?_) fun e s he hs r t hc ↦ ?_
  · cases r with
    | ok token => exact .pure token
    | error e =>
      dsimp only
      split
      · split
        · refine Calm.attempt_bind (h _) (fun r ↦ ?_) fun _ s _ hs r t hc ↦ ?_
          · cases r with
            | ok token => exact .pure token
            | error _ => exact .throw e
          · cases hc
            exact ⟨e, rfl, trivial, hs⟩
        · exact .throw e
      · exact .throw e
  · -- The error of a cancellation does not refuse the scope, so the wider one is not asked for.
    dsimp only at hc
    split at hc
    · rw [if_neg (Bool.eq_false_iff.1 he)] at hc
      cases hc
      exact ⟨e, rfl, trivial, hs⟩
    · cases hc
      exact ⟨e, rfl, trivial, hs⟩

/-- Keeping a token waits for nothing. -/
theorem calm_keep (token : Token) (P : AuthError → Prop) :
    Calm P (keep token : Call ω AuthError Grant) (keep token) := by
  intro s s' hs r t hc
  have hkeep (s : Session ω) : (keep token).outcome s =
      .ok (.ok ⟨s.grants.count, token.scope, token⟩, { s with grants :=
        { s.grants.insert ⟨s.grants.count, token.scope, token⟩ with
          count := s.grants.count + 1 } }) := rfl
  rw [hkeep] at hc
  cases hc
  refine .inl ⟨_, by rw [hkeep, hs.grants], ?_⟩
  exact ⟨hs.peer, hs.now, rfl, hs.ids, hs.cancelled, hs.patience⟩

/-- A grant is had in both runs or in none of them. What was swallowed on the way to it is over. -/
theorem calm_obtain (h : ∀ scope, Calm IsOther (tokens scope) (tokens' scope)) (scope : String) :
    Calm (fun _ ↦ True) (obtain tokens scope) (obtain tokens' scope) := by
  rw [obtain, obtain]
  refine Calm.get_bind fun s s' hs ↦ ?_
  rw [hs.grants]
  cases s.grants.serving? scope with
  | some grant => exact Calm.pure grant s s' hs
  | none => exact Calm.bind (calm_request h scope) (fun token ↦ calm_keep token _) s s' hs

/-- An expired token is replaced in both runs or in none of them. -/
theorem calm_bearer (h : ∀ scope, Calm IsOther (tokens scope) (tokens' scope)) (grant : Grant) :
    Calm IsOther (bearer tokens grant) (bearer tokens' grant) := by
  rw [bearer, bearer]
  refine Calm.get_bind fun s s' hs ↦ ?_
  rw [hs.grants, hs.now]
  dsimp only
  split
  · refine Calm.bind (h _) (fun token ↦ ?_) s s' hs
    refine Calm.bind (Calm.modify fun u u' hu ↦ ?_) fun _ ↦ .pure _
    exact ⟨hu.peer, hu.now, by rw [hu.grants], hu.ids, hu.cancelled, hu.patience⟩
  · exact Calm.pure _ s s' hs

end Grants

/-- Where tokens come from. -/
inductive TokenSupply (ω : Type) where
  /-- From answers by scope. -/
  | replies (r : Replies ω String AuthError Token)
  /-- From the token endpoint. -/
  | account (a : ServiceAccount ω)

namespace TokenSupply

/-- The source of tokens. -/
def source : TokenSupply ω → TokenSource ω
  | replies r => r.ask (.request .cancelled)
  | account a => a.tokens

/-- The same without cancellation. -/
def calm : TokenSupply ω → TokenSupply ω
  | replies r => replies r.calm
  | account a => account a.calm

/-- Tokens from either place go in step. -/
theorem calm_source (x : TokenSupply ω) (scope : String) :
    Calm IsOther (x.source scope) (x.calm.source scope) := by
  cases x with
  | replies r => exact (r.calm_ask _ scope).mono fun e he ↦ by rw [he]; rfl
  | account a => exact a.calm_tokens scope

end TokenSupply

/-! ### The provider -/

/-- Errors that are no answer of the provider. -/
def IsNoAnswer (e : RequestError) : Prop :=
  ∀ answer, e ≠ .api answer

/-- What a provider is made of. -/
structure ProviderSupply (ω : Type) where
  /-- How requests are sent. -/
  network : Network ω
  /-- How often they are sent again. -/
  policy : RetryPolicy
  /-- Where they go. -/
  endpoints : Endpoints
  /-- Where tokens come from. -/
  tokens : TokenSupply ω

namespace ProviderSupply

/-- The provider. -/
def provider (x : ProviderSupply ω) : Provider ω :=
  ⟨x.network, x.policy, x.endpoints, x.tokens.source⟩

/-- The same without cancellation. -/
def calm (x : ProviderSupply ω) : ProviderSupply ω :=
  { x with network := x.network.calm, tokens := x.tokens.calm }

variable (x : ProviderSupply ω) {α : Type}

/-- Reading a URL waits for nothing. -/
theorem calm_requestUrl (raw : String) (P : RequestError → Prop) :
    Calm P (requestUrl raw : Call ω RequestError Url) (requestUrl raw) := by
  rw [requestUrl]
  split
  · exact .pure _
  · exact .throw _

/-- Neither does reading a response. -/
theorem calm_readResponse (d : Json.Document α) (response : Http.Response)
    (P : RequestError → Prop) :
    Calm P (Provider.readResponse d response : Call ω RequestError α)
      (Provider.readResponse d response) := by
  rw [Provider.readResponse]
  refine Calm.get_bind fun s s' hs ↦ ?_
  rw [hs.now]
  refine Calm.bind (.checked _) (fun rateLimit ↦ ?_) s s' hs
  split
  · exact .throw _
  · split
    · split
      · exact .pure _
      · exact .throw _
    · exact .throw _

/-- A request gets the same token in both runs. -/
theorem calm_authorized (grant : Grant) (url : Url) :
    Calm IsNoAnswer (x.provider.authorized grant url) (x.calm.provider.authorized grant url) := by
  rw [Provider.authorized, Provider.authorized]
  refine Calm.bind ?_ fun secret ↦ ?_
  · exact (Grants.calm_bearer x.tokens.calm_source grant).mapError fun e _ answer h ↦ by cases h
  · dsimp only
    split
    · exact .pure _
    · exact .throw _

/-- **A cancelled request is no answer of the provider.** -/
theorem calm_fetch (d : Json.Document α) (grant : Grant) (url : Url) :
    Calm IsNoAnswer (x.provider.fetch d grant url) (x.calm.provider.fetch d grant url) := by
  rw [Provider.fetch, Provider.fetch]
  refine Calm.bind (x.calm_authorized grant url) fun request ↦ ?_
  refine Calm.bind ?_ fun response ↦ calm_readResponse d response _
  exact (x.network.calm_send x.policy request).mono fun e he answer h ↦ by
    rw [he] at h
    cases h

/-- An entry is gone in both runs or in none of them. -/
theorem calm_lookup (grant : Grant) (raw : String) :
    Calm (fun _ ↦ True) (x.provider.lookup grant raw) (x.calm.provider.lookup grant raw) := by
  rw [Provider.lookup, Provider.lookup]
  refine Calm.bind (calm_requestUrl raw _) fun url ↦ ?_
  refine Calm.attempt_bind (x.calm_fetch Json.directoryEntry grant url) (fun r ↦ ?_)
    fun e s he hs r t hc ↦ ?_
  · split
    · exact .pure _
    · split
      · exact .pure _
      · exact .throw _
    · exact .throw _
  -- A cancellation is not taken for an entry that is gone.
  · split at hc
    · rename_i h
      cases h
    · rename_i answer h
      exact absurd (Except.error.inj h) (he answer)
    · cases hc
      exact ⟨_, rfl, trivial, hs⟩

/-- The provider's own errors are not swallowed, and neither is that there is no token for it. -/
theorem calm_obtain (scope : String) :
    Calm (fun _ ↦ True) ((Grants.obtain x.provider.tokens scope).mapError RequestError.auth)
      ((Grants.obtain x.calm.provider.tokens scope).mapError RequestError.auth) :=
  (Grants.calm_obtain x.tokens.calm_source scope).mapError fun _ _ ↦ trivial

/-- **A page is listed in step**, whatever the provider says of it. -/
theorem calm_activities (query : ActivityQuery) :
    Calm (fun _ ↦ True) (x.provider.activities query) (x.calm.provider.activities query) := by
  rw [Provider.activities, Provider.activities]
  refine Calm.bind (x.calm_obtain Scope.activities) fun grant ↦ ?_
  refine Calm.bind (calm_requestUrl _ _) fun url ↦ ?_
  exact (x.calm_fetch Json.activityPage grant _).mono fun _ _ ↦ trivial

/-- **So is an email resolved.** -/
theorem calm_directory (type : ResourceType) (email : String) :
    Calm (fun _ ↦ True) (x.provider.directory type email)
      (x.calm.provider.directory type email) := by
  cases type with
  | group => exact Calm.bind (x.calm_obtain Scope.groups) fun grant ↦ x.calm_lookup grant _
  | user => exact Calm.bind (x.calm_obtain Scope.users) fun grant ↦ x.calm_lookup grant _
  | role => exact .pure _
  | app => exact .pure _

end ProviderSupply

/-! ### Feeds -/

/-- Where the pages and the emails of a feed come from. -/
structure FeedSupply (ω : Type) where
  /-- The pages: answers by query, or a provider. -/
  pages : Replies ω ActivityQuery RequestError ActivityPage ⊕ ProviderSupply ω
  /-- The emails: answers by type and email, or a provider. -/
  emails : Replies ω LookupKey RequestError Lookup ⊕ ProviderSupply ω

namespace FeedSupply

/-- Where pages come from. -/
def source (x : FeedSupply ω) : ActivitySource ω :=
  match x.pages with
  | .inl replies => replies.ask .cancelled
  | .inr p => p.provider.activities

/-- Where emails are resolved. -/
def directory (x : FeedSupply ω) : Directory ω :=
  match x.emails with
  | .inl replies => fun type email ↦ replies.ask .cancelled (type, email)
  | .inr p => p.provider.directory

/-- The same without cancellation. -/
def calm (x : FeedSupply ω) : FeedSupply ω where
  pages := x.pages.map Replies.calm ProviderSupply.calm
  emails := x.emails.map Replies.calm ProviderSupply.calm

/-- The feed. -/
def feed (x : FeedSupply ω) (kind : FeedKind) (config : FeedConfig) : Feed ω :=
  ⟨kind, config, x.source, x.directory⟩

/-- Pages from either place go in step. -/
theorem calm_source (x : FeedSupply ω) (query : ActivityQuery) :
    Calm (fun _ ↦ True) (x.source query) (x.calm.source query) := by
  obtain ⟨pages, emails⟩ := x
  cases pages with
  | inl replies => exact (replies.calm_ask _ query).mono fun _ _ ↦ trivial
  | inr p => exact p.calm_activities query

/-- So do emails. -/
theorem calm_directory (x : FeedSupply ω) (type : ResourceType) (email : String) :
    Calm (fun _ ↦ True) (x.directory type email) (x.calm.directory type email) := by
  obtain ⟨pages, emails⟩ := x
  cases emails with
  | inl replies => exact (replies.calm_ask _ (type, email)).mono fun _ _ ↦ trivial
  | inr p => exact p.calm_directory type email

end FeedSupply

end AuditFeed
