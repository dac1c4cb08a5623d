import AuditFeed.Proofs.Feed.Poll
import AuditFeed.Proofs.Resolver
import AuditFeed.Proofs.Retry
import Mathlib.Logic.Relation

/-!
# What a call can do to a session

`Call.Takes Step c` says that however `c` ends, the session it leaves is reached from the one it
started with by steps of `Step`. There is one rule for each way in which calls are put together, and
a call that is put together from others takes the steps that they take. What holds of every step and
is kept along steps then holds of every call: nothing else has to be said of `Feed.poll` than what
its parts do.

`Session.Move` lists all that any part of the connector does to a session: it hears from the other
side, sends a request, pauses, notices that the caller cancels, changes its grants, and keeps an
answer. A request is sent and a pause begun only while the caller has not cancelled. That guard is
in the network and nowhere else, and all requests pass it.

## Two parameters of a move

A move is told with what may be sent and what may be kept, since most results are about one of them
only:

* `Sends` holds of the requests. With the requests of one listing in its place, a poll is seen to
  send no others; with all requests, only the order of the work is left.
* `Keeps` holds of the answers. Where it is never true, the kept answers stay as they are
  (`Session.ids_eq_of_moves`).

The rules of `Takes` are for any `Step`, not for moves alone. So an invariant that is about one
field needs no list of moves: `Feed.peer_interpretAll` takes steps that leave a part of the other
side alone.

## What a run of moves notes

`Session.Notes` is what moves come to for somebody who reads the trace: work, and after it the
cancellation if there is one. That nothing is done for a caller who has cancelled is its field
`idle`, and `Notes.trans` is the induction step. A single move is looked at once
(`Move.exists_notes`), any number of them by induction (`Session.exists_notes_of_moves`).

## Where a rule needs the session

`Takes.bind` is for calls of which each takes its steps from every session. Some do only from where
they are called: a request is built from the assertion that was made before it. For these there is
`Takes.bindAt`, which is about one session and about what the first call returns from it.
-/

namespace AuditFeed

open Relation

variable {ω : Type}

namespace Call

variable {ε ε' α β : Type} {Step : Session ω → Session ω → Prop} {c : Call ω ε α}

/-- However the call ends, from `s` it takes steps of `Step`. -/
def TakesAt (Step : Session ω → Session ω → Prop) (c : Call ω ε α) (s : Session ω) : Prop :=
  ∀ r t, c.outcome s = .ok (r, t) → ReflTransGen Step s t

/-- However the call ends, it takes steps of `Step`. -/
def Takes (Step : Session ω → Session ω → Prop) (c : Call ω ε α) : Prop :=
  ∀ s, c.TakesAt Step s

/-- What every step keeps, a call that takes such steps keeps. -/
theorem Takes.keeps {P : Session ω → Prop} (h : c.Takes Step)
    (hstep : ∀ s t, Step s t → P s → P t) {s t : Session ω} {r : Except ε α}
    (hc : c.outcome s = .ok (r, t)) (hs : P s) : P t := by
  have hrun := h s r t hc
  clear hc
  induction hrun with
  | refl => exact hs
  | tail _ hlast ih => exact hstep _ _ hlast ih

namespace Takes

/-! ### Rules -/

/-- A value is returned without a step, and so is an error. -/
theorem pure (a : α) : (Pure.pure a : Call ω ε α).Takes Step := by
  intro s r t hc
  rw [outcome_pure] at hc
  cases hc
  exact .refl

theorem throw (e : ε) : (throw e : Call ω ε α).Takes Step := by
  intro s r t hc
  rw [outcome_throw] at hc
  cases hc
  exact .refl

theorem ofExcept (a : Except ε α) : (Call.ofExcept a : Call ω ε α).Takes Step := by
  intro s r t hc
  rw [outcome_ofExcept] at hc
  cases hc
  exact .refl

theorem checked (a : Except Overflow α) : (Call.checked a : Call ω ε α).Takes Step := by
  intro s r t hc
  rw [outcome_checked] at hc
  cases a with
  | error o => cases hc
  | ok a =>
    cases hc
    exact .refl

/-- One call after another; the second one has to be looked at only for what the first returns. -/
theorem bindAt {f : α → Call ω ε β} {s : Session ω} (h : c.TakesAt Step s)
    (hf : ∀ a t, c.Returns s a t → (f a).TakesAt Step t) : (c >>= f).TakesAt Step s := by
  intro r t hc
  rw [outcome_bind] at hc
  rcases hs : c.outcome s with o | ⟨e | a, u⟩
  · rw [hs] at hc
    cases hc
  · rw [hs] at hc
    cases hc
    exact h _ _ hs
  · rw [hs] at hc
    exact (h _ _ hs).trans (hf a u hs r t hc)

/-- **One call after another** takes the steps of both. -/
theorem bind {f : α → Call ω ε β} (h : c.Takes Step) (hf : ∀ a, (f a).Takes Step) :
    (c >>= f).Takes Step :=
  fun s ↦ bindAt (h s) fun a t _ ↦ hf a t

/-- What follows a look at the session starts in that session. -/
theorem get_bind {f : Session ω → Call ω ε α} (h : ∀ s, (f s).TakesAt Step s) :
    (get >>= f).Takes Step := by
  intro s r t hc
  rw [outcome_bind, outcome_get] at hc
  exact h s r t hc

/-- A change of the session is one step. -/
theorem modify {f : Session ω → Session ω} (h : ∀ s, Step s (f s)) :
    (modify f : Call ω ε PUnit).Takes Step := by
  intro s r t hc
  rw [outcome_modify] at hc
  cases hc
  exact .single (h s)

/-- Another error in the place of a call's own is no step. -/
theorem mapError (f : ε → ε') (h : c.Takes Step) : (c.mapError f).Takes Step := by
  intro s r t hc
  rw [outcome_mapError] at hc
  rcases hs : c.outcome s with o | ⟨q, u⟩
  · rw [hs] at hc
    cases hc
  · rw [hs] at hc
    cases hc
    exact h s _ _ hs

/-- Neither is it a step to turn an error into a value. -/
theorem attempt (h : c.Takes Step) : (c.attempt : Call ω ε' (Except ε α)).Takes Step := by
  intro s r t hc
  rw [outcome_attempt] at hc
  rcases hs : c.outcome s with o | ⟨q, u⟩
  · rw [hs] at hc
    cases hc
  · rw [hs] at hc
    cases hc
    exact h s _ _ hs

end Takes

end Call

/-! ### The moves of a connector -/

/-- What one step of work does to a session, where the requests that are sent satisfy `Sends` and
the answers that are kept satisfy `Keeps`. -/
inductive Session.Move (Sends : Http.Request → Prop) (Keeps : LookupKey → Option String → Prop) :
    Session ω → Session ω → Prop
  /-- The other side has changed. -/
  | hear (s : Session ω) (peer : ω) : Move Sends Keeps s { s with peer }
  /-- A request is sent. -/
  | attempt (s : Session ω) (peer : ω) {request : Http.Request} (hs : s.cancelled = false)
      (h : Sends request) : Move Sends Keeps s ({ s with peer }.note (.attempt request))
  /-- A pause begins. -/
  | pause (s : Session ω) (length : Duration) (hs : s.cancelled = false) :
      Move Sends Keeps s (s.pause length)
  /-- The caller cancels. -/
  | cancel (s : Session ω) : Move Sends Keeps s s.cancel
  /-- The grants change. -/
  | grant (s : Session ω) (grants : Grants) : Move Sends Keeps s { s with grants }
  /-- An answer is kept. -/
  | keep (s : Session ω) {key : LookupKey} {id : Option String} (h : Keeps key id) :
      Move Sends Keeps s { s with ids := (key, id) :: s.ids }

variable {Sends : Http.Request → Prop} {Keeps : LookupKey → Option String → Prop}

namespace Session

variable {s t u : Session ω}

/-- Cancelling leaves the kept answers alone. -/
theorem ids_cancel (s : Session ω) : s.cancel.ids = s.ids := by
  rw [Session.cancel]
  split <;> rfl

/-- What is noted from `s` to `t`: work, as long as the caller has not cancelled, and then nothing
but the cancellation. -/
structure Notes (Sends : Http.Request → Prop) (s t : Session ω) (work : List Step) : Prop where
  /-- The work is noted, and after it the cancellation if there is one. -/
  trace : t.trace = s.trace ++ work ++ if t.cancelled && !s.cancelled then [.cancel] else []
  /-- A caller who has cancelled stays so, and no work is done for it. -/
  idle : s.cancelled = true → work = [] ∧ t.cancelled = true
  /-- The cancellation is no part of the work. -/
  cancel_not_mem : Step.cancel ∉ work
  /-- The requests that are sent satisfy `Sends`. -/
  sends : ∀ request, Step.attempt request ∈ work → Sends request

namespace Notes

/-- No work at all. -/
theorem nil (htrace : t.trace = s.trace) (hcancelled : t.cancelled = s.cancelled) :
    Notes Sends s t [] := by
  refine ⟨?_, fun hs ↦ ⟨rfl, hcancelled.trans hs⟩, List.not_mem_nil, fun _ h ↦ absurd h
    List.not_mem_nil⟩
  rw [htrace, hcancelled, Bool.and_not_self]
  simp

/-- One piece of work while the caller has not cancelled. -/
theorem single {step : Step} (hs : s.cancelled = false) (ht : t.cancelled = false)
    (htrace : t.trace = s.trace ++ [step]) (hstep : step ≠ .cancel)
    (hsends : ∀ request, step = .attempt request → Sends request) : Notes Sends s t [step] := by
  refine ⟨?_, fun h ↦ absurd (hs.symm.trans h) Bool.false_ne_true,
    fun h ↦ hstep (List.mem_singleton.1 h).symm, fun request h ↦ hsends request
      (List.mem_singleton.1 h).symm⟩
  rw [htrace, ht]
  simp

/-- The caller cancels. -/
theorem stop (hs : s.cancelled = false) (ht : t.cancelled = true)
    (htrace : t.trace = s.trace ++ [.cancel]) : Notes Sends s t [] := by
  refine ⟨?_, fun h ↦ absurd (hs.symm.trans h) Bool.false_ne_true, List.not_mem_nil,
    fun _ h ↦ absurd h List.not_mem_nil⟩
  rw [htrace, hs, ht]
  simp

/-- What may be sent may be widened. -/
theorem mono {Sends' : Http.Request → Prop} {work : List Step} (h : Notes Sends s t work)
    (hsub : ∀ request, Sends request → Sends' request) : Notes Sends' s t work :=
  ⟨h.trace, h.idle, h.cancel_not_mem, fun request hmem ↦ hsub request (h.sends request hmem)⟩

/-- **The work of two runs is put together.** If the first one ends with the cancellation, nothing
is done in the second one. -/
theorem trans {work later : List Step} (h : Notes Sends s u work) (h' : Notes Sends u t later) :
    Notes Sends s t (work ++ later) := by
  refine ⟨?_, fun hs ↦ ?_, fun hmem ↦ ?_, fun request hmem ↦ ?_⟩
  · rw [h'.trace, h.trace]
    cases hu : u.cancelled with
    | true =>
      -- Nothing is done after the cancellation.
      obtain ⟨rfl, ht⟩ := h'.idle hu
      rw [ht]
      simp
    | false =>
      have hs : s.cancelled = false :=
        Bool.eq_false_iff.2 fun hs ↦ Bool.false_ne_true (hu.symm.trans (h.idle hs).2)
      rw [hs]
      simp
  · obtain ⟨rfl, hu⟩ := h.idle hs
    obtain ⟨rfl, ht⟩ := h'.idle hu
    exact ⟨rfl, ht⟩
  · exact (List.mem_append.1 hmem).elim h.cancel_not_mem h'.cancel_not_mem
  · exact (List.mem_append.1 hmem).elim (h.sends request) (h'.sends request)

end Notes

/-- **One step of work.** -/
theorem Move.exists_notes (h : Move Sends Keeps s t) : ∃ work, Notes Sends s t work := by
  cases h with
  | hear peer => exact ⟨[], .nil rfl rfl⟩
  | @attempt peer request hs h =>
    refine ⟨[.attempt request], .single hs hs rfl nofun fun request' heq ↦ ?_⟩
    cases heq
    exact h
  | pause length hs =>
    cases ht : (s.pause length).cancelled with
    | false =>
      refine ⟨[.pause length], .single hs ht (trace_pause_of_live ht).2 nofun fun request heq ↦ ?_⟩
      cases heq
    | true => exact ⟨[], .stop hs ht (trace_pause_of_cancelled hs ht)⟩
  | cancel =>
    cases hs : s.cancelled with
    | false => exact ⟨[], .stop hs (cancelled_cancel s) (trace_cancel_of_live hs)⟩
    | true =>
      rw [Session.cancel, if_pos hs]
      exact ⟨[], .nil rfl rfl⟩
  | grant grants => exact ⟨[], .nil rfl rfl⟩
  | keep h => exact ⟨[], .nil rfl rfl⟩

/-- **Any amount of work**: it ends with the cancellation. -/
theorem exists_notes_of_moves (h : ReflTransGen (Move Sends Keeps) s t) :
    ∃ work, Notes Sends s t work := by
  induction h with
  | refl => exact ⟨[], .nil rfl rfl⟩
  | tail _ hlast ih =>
    obtain ⟨work, hwork⟩ := ih
    obtain ⟨later, hlater⟩ := hlast.exists_notes
    exact ⟨_, hwork.trans hlater⟩

/-- Where no answer may be kept, none is. -/
theorem ids_eq_of_moves (h : ReflTransGen (Move Sends fun _ _ ↦ False) s t) : t.ids = s.ids := by
  induction h with
  | refl => rfl
  | @tail u t _ hlast ih =>
    rw [← ih]
    cases hlast with
    | hear => rfl
    | attempt => rfl
    | pause length =>
      rw [Session.pause]
      split
      · rfl
      · split
        · exact ids_cancel u
        · rfl
    | cancel => exact ids_cancel u
    | grant => rfl
    | keep h => exact h.elim

end Session

open Call

namespace Network

variable (net : Network ω) {request : Http.Request}

/-- One attempt sends one request, unless the caller has cancelled before. -/
theorem takes_sendOnce (h : Sends request) :
    (net.sendOnce request).Takes (Session.Move Sends Keeps) := by
  intro s r t hc
  rw [outcome_sendOnce] at hc
  split at hc
  · cases hc
    exact .refl
  · rename_i hlive
    have hsent : Session.Move Sends Keeps s
        ({ s with peer := (net.exchange request s.peer).2 }.note (.attempt request)) :=
      .attempt s _ (Bool.eq_false_iff.2 hlive) h
    dsimp only at hc
    split at hc
    · cases hc
      exact .tail (.single hsent) (.cancel _)
    · cases hc
      exact .tail (.single hsent) (.cancel _)
    · cases hc
      exact .single hsent

/-- A pause draws its length from the other side before it begins. -/
theorem takes_pause (policy : RetryPolicy) (attempt : Nat) :
    (net.pause policy attempt).Takes (Session.Move Sends Keeps) := by
  intro s r t hc
  rw [outcome_pause] at hc
  split at hc
  · cases hc
    exact .refl
  · rename_i hlive
    have hpaused : ReflTransGen (Session.Move Sends Keeps) s
        ({ s with peer := (net.draw s.peer).2 }.pause
          (policy.backoff attempt (net.draw s.peer).1)) :=
      .tail (.single (.hear s _)) (.pause _ _ (Bool.eq_false_iff.2 hlive))
    dsimp only at hc
    split at hc
    · cases hc
      exact hpaused
    · cases hc
      exact hpaused

/-- The attempts that are left are made one by one, with a pause between them. -/
theorem takes_sendFrom (policy : RetryPolicy) (h : Sends request) (left attempt : Nat) :
    (net.sendFrom policy request left attempt).Takes (Session.Move Sends Keeps) := by
  induction left generalizing attempt with
  | zero =>
    rw [sendFrom]
    refine Takes.bind (net.takes_sendOnce h) fun answer ↦ ?_
    cases answer with
    | ok response => exact .pure response
    | error e => exact .throw _
  | succ left ih =>
    rw [sendFrom]
    refine Takes.bind (net.takes_sendOnce h) fun answer ↦ ?_
    cases answer with
    | ok response => exact .pure response
    | error e =>
      dsimp only
      split
      · exact Takes.bind (net.takes_pause policy attempt) fun _ ↦ ih (attempt + 1)
      · exact .throw _

/-- **Sending takes no steps but attempts of the request and pauses.** -/
theorem takes_send (policy : RetryPolicy) (h : Sends request) :
    (net.send policy request).Takes (Session.Move Sends Keeps) :=
  net.takes_sendFrom policy h policy.maxRetries 0

end Network

/-- What is noted of sending a request: attempts of it, and at least one of them if there is a
response. -/
theorem Network.notes_send {net : Network ω} {policy : RetryPolicy} {request : Http.Request}
    {s t : Session ω} {r : Except RequestError Http.Response}
    (h : (net.send policy request).outcome s = .ok (r, t)) :
    ∃ work, Session.Notes (fun other ↦ other = request) s t work ∧
      ∀ response, r = .ok response → .attempt request ∈ work := by
  obtain ⟨n, r', t', hends⟩ : ∃ n r t, net.Ends policy request s n r t := exists_ends
  cases h.symm.trans hends.outcome_send
  refine ⟨net.course policy request s n, ⟨hends.trace_eq, fun hs ↦ ?_, fun hmem ↦ ?_,
    fun other hmem ↦ ?_⟩, fun response hr ↦ ?_⟩
  · obtain rfl : n = 0 := by
      by_contra hne
      have hfirst := (hends.lt_iff_tries 0).1 (Nat.pos_of_ne_zero hne)
      exact Bool.false_ne_true (hfirst.2.1.symm.trans hs)
    cases hends with
    | atEntry => exact ⟨rfl, hs⟩
  · rcases eq_of_mem_course hmem with h | ⟨_, h⟩ <;> cases h
  · rcases eq_of_mem_course hmem with h | ⟨_, h⟩
    · cases h
      rfl
    · cases h
  · cases hends with
    | response => exact List.mem_append_right _ (List.mem_singleton_self _)
    | _ => cases hr

/-- A scripted reply is heard, and may come with the cancellation. -/
theorem Replies.takes_ask {κ ε α : Type} (replies : Replies ω κ ε α) (gone : ε) (key : κ) :
    (replies.ask gone key).Takes (Session.Move Sends Keeps) := by
  intro s r t hc
  have hheard : Session.Move Sends Keeps s { s with peer := (replies.reply key s.peer).2 } :=
    .hear s _
  rw [outcome_ask] at hc
  split at hc
  · cases hc
    exact .refl
  · dsimp only at hc
    split at hc
    · cases hc
      exact .tail (.single hheard) (.cancel _)
    · cases hc
      exact .tail (.single hheard) (.cancel _)
    · cases hc
      exact .single hheard

/-! ### Tokens and grants -/

/-- A token is asked for with a request of its own method. -/
theorem ServiceAccount.method_of_tokenRequest {key : ServiceAccountKey} {assertion : String}
    {request : Http.Request} (h : tokenRequest key assertion = .ok request) :
    request.method = "POST" := by
  rw [tokenRequest] at h
  split at h
  · cases h
    rfl
  · cases h

/-- A token is read off a response without a step. -/
theorem ServiceAccount.takes_readAnswer {Step : Session ω → Session ω → Prop} (scope : String)
    (response : Http.Response) :
    (readAnswer scope response : Call ω AuthError Token).Takes Step := by
  rw [readAnswer]
  split
  · exact .throw _
  · split
    · split
      · exact Takes.get_bind fun s ↦ Takes.checked _ s
      · exact .throw _
    · exact .throw _

/-- Is this a request for a token, with an assertion of the account's? -/
def ServiceAccount.AsksToken (a : ServiceAccount ω) (request : Http.Request) : Prop :=
  ∃ scope now assertion, a.assertion scope now = .ok assertion ∧
    tokenRequest a.key assertion = .ok request

/-- An account sends requests for tokens, and no others. -/
theorem ServiceAccount.takes_tokens (a : ServiceAccount ω)
    (hasks : ∀ request, a.AsksToken request → Sends request) (scope : String) :
    (a.tokens scope).Takes (Session.Move Sends Keeps) := by
  rw [tokens]
  refine Takes.get_bind fun s ↦ Takes.bindAt (Takes.ofExcept _ s) fun assertion t hassertion ↦ ?_
  refine Takes.bindAt (Takes.ofExcept _ t) fun request u hrequest ↦ ?_
  have hsends := hasks request
    ⟨scope, _, assertion, (returns_ofExcept.1 hassertion).1, (returns_ofExcept.1 hrequest).1⟩
  refine Takes.bind ?_ (fun response ↦ ?_) u
  · exact (a.network.takes_send a.policy hsends).mapError _
  · exact takes_readAnswer scope response

/-- Does a supply of tokens send this request? -/
def TokenSupply.AsksToken : TokenSupply ω → Http.Request → Prop
  | replies _, _ => False
  | account a, request => a.AsksToken request

/-- Whatever a supply of tokens sends is posted, so it is no lookup and no listing. -/
theorem TokenSupply.method_of_asksToken {x : TokenSupply ω} {request : Http.Request}
    (h : x.AsksToken request) : request.method = "POST" := by
  cases x with
  | replies r => exact h.elim
  | account a =>
    obtain ⟨scope, now, assertion, -, hrequest⟩ := h
    exact ServiceAccount.method_of_tokenRequest hrequest

/-- A supply of tokens sends what its account sends, or nothing. -/
theorem TokenSupply.takes_source_of_asks (x : TokenSupply ω)
    (hasks : ∀ request, x.AsksToken request → Sends request) (scope : String) :
    (x.source scope).Takes (Session.Move Sends Keeps) := by
  cases x with
  | replies r => exact r.takes_ask _ scope
  | account a => exact a.takes_tokens hasks scope

/-- It is enough that requests of this method may be sent. -/
theorem TokenSupply.takes_source (x : TokenSupply ω)
    (hpost : ∀ request : Http.Request, request.method = "POST" → Sends request) (scope : String) :
    (x.source scope).Takes (Session.Move Sends Keeps) :=
  x.takes_source_of_asks (fun request h ↦ hpost request (method_of_asksToken h)) scope

namespace Grants

variable {tokens : TokenSource ω}

/-- A token is asked for once, or twice where the scope is refused. -/
theorem takes_request (h : ∀ scope, (tokens scope).Takes (Session.Move Sends Keeps))
    (scope : String) : (request tokens scope).Takes (Session.Move Sends Keeps) := by
  rw [request]
  refine Takes.bind (h scope).attempt fun answer ↦ ?_
  cases answer with
  | ok token => exact .pure token
  | error e =>
    dsimp only
    split
    · split
      · refine Takes.bind (h _).attempt fun answer ↦ ?_
        cases answer with
        | ok token => exact .pure token
        | error _ => exact .throw e
      · exact .throw e
    · exact .throw e

/-- A token that was had is kept as a grant. -/
theorem takes_keep (token : Token) :
    (keep token : Call ω AuthError Grant).Takes (Session.Move Sends Keeps) := by
  intro s r t hc
  cases hc
  exact .single (.grant s _)

/-- **A grant is had by the steps of the source**, and by none of its own but the one that keeps it.
-/
theorem takes_obtain (h : ∀ scope, (tokens scope).Takes (Session.Move Sends Keeps))
    (scope : String) : (obtain tokens scope).Takes (Session.Move Sends Keeps) := by
  rw [obtain]
  refine Takes.get_bind fun s ↦ ?_
  split
  · exact Takes.pure _ s
  · exact Takes.bind (takes_request h scope) (fun token ↦ takes_keep token) s

/-- The token of a grant is had by the steps of the source, and is kept if it is new. -/
theorem takes_bearer (h : ∀ scope, (tokens scope).Takes (Session.Move Sends Keeps))
    (grant : Grant) : (bearer tokens grant).Takes (Session.Move Sends Keeps) := by
  rw [bearer]
  refine Takes.get_bind fun s ↦ ?_
  dsimp only
  split
  · refine Takes.bind (h _) (fun token ↦ ?_) s
    exact Takes.bind (Takes.modify fun u ↦ .grant u _) fun _ ↦ .pure _
  · exact Takes.pure _ s

end Grants

/-! ### The provider -/

namespace Provider

variable {p : Provider ω} {α : Type}

/-- The request that carries a token is the one for the URL. -/
theorem returns_authorized {grant : Grant} {url : Url} {request : Http.Request} {s t : Session ω}
    (h : (p.authorized grant url).Returns s request t) :
    request.method = "GET" ∧ request.url = url := by
  rw [authorized] at h
  obtain ⟨secret, u, -, h⟩ := returns_bind.1 h
  dsimp only at h
  split at h
  · obtain ⟨rfl, -⟩ := returns_pure.1 h
    exact ⟨rfl, rfl⟩
  · exact absurd h returns_throw

/-- A response is read without a step. -/
theorem takes_readResponse {Step : Session ω → Session ω → Prop} (d : Json.Document α)
    (response : Http.Response) : (readResponse d response : Call ω RequestError α).Takes Step := by
  rw [readResponse]
  refine Takes.get_bind fun s ↦ Takes.bind (.checked _) (fun rateLimit ↦ ?_) s
  split
  · exact .throw _
  · split
    · split
      · exact .pure _
      · exact .throw _
    · exact .throw _

/-- A URL is sent to only if its text is one. -/
theorem parse_of_returns_requestUrl {raw : String} {url : Url} {s t : Session ω}
    (h : (requestUrl raw : Call ω RequestError Url).Returns s url t) : Url.parse raw = .ok url := by
  rw [requestUrl] at h
  split at h
  · rename_i hparse
    obtain ⟨rfl, -⟩ := returns_pure.1 h
    exact hparse
  · exact absurd h returns_throw

/-- Reading the text is no step. -/
theorem takes_requestUrl (raw : String) :
    (requestUrl raw : Call ω RequestError Url).Takes (Session.Move Sends Keeps) := by
  rw [requestUrl]
  split
  · exact .pure _
  · exact .throw _

/-- Is this the lookup of an email, as that of a group or a user? -/
def LooksUp (p : Provider ω) (request : Http.Request) : Prop :=
  request.method = "GET" ∧ ∃ email, Url.parse (p.endpoints.group email) = .ok request.url ∨
    Url.parse (p.endpoints.user email) = .ok request.url

variable (htokens : ∀ scope, (p.tokens scope).Takes (Session.Move Sends Keeps))
include htokens

/-- A request gets its token by the steps of the source. -/
theorem takes_authorized (grant : Grant) (url : Url) :
    (p.authorized grant url).Takes (Session.Move Sends Keeps) := by
  rw [authorized]
  refine Takes.bind ((Grants.takes_bearer htokens grant).mapError _) fun secret ↦ ?_
  dsimp only
  split
  · exact .pure _
  · exact .throw _

/-- Only the request for the URL is sent, and what the source of tokens sends. -/
theorem takes_fetch (d : Json.Document α) (grant : Grant) {url : Url}
    (h : ∀ request : Http.Request, request.method = "GET" → request.url = url → Sends request) :
    (p.fetch d grant url).Takes (Session.Move Sends Keeps) := by
  rw [fetch]
  intro s
  refine Takes.bindAt (takes_authorized htokens grant url s) fun request t hrequest ↦ ?_
  obtain ⟨hmethod, hurl⟩ := returns_authorized hrequest
  exact Takes.bind (p.network.takes_send p.policy (h request hmethod hurl))
    (fun response ↦ takes_readResponse d response) t

/-- A listing sends what asks for its page, at the URL of its log. -/
theorem takes_listActivities (grant : Grant) (query : ActivityQuery)
    (h : ∀ (request : Http.Request) (url : Url), request.method = "GET" →
      Url.parse (p.endpoints.activities query.application) = .ok url →
      request.url = url.addPairs query.pairs → Sends request) :
    (p.listActivities grant query).Takes (Session.Move Sends Keeps) := by
  rw [listActivities]
  intro s
  refine Takes.bindAt (takes_requestUrl _ s) fun url t hurl ↦ ?_
  have hparse := parse_of_returns_requestUrl hurl
  exact takes_fetch htokens Json.activityPage grant
    (fun request hmethod hrequest ↦ h request url hmethod hparse hrequest) t

/-- It is listed under a grant for the log, which is obtained first. -/
theorem takes_activities (query : ActivityQuery)
    (h : ∀ (request : Http.Request) (url : Url), request.method = "GET" →
      Url.parse (p.endpoints.activities query.application) = .ok url →
      request.url = url.addPairs query.pairs → Sends request) :
    (p.activities query).Takes (Session.Move Sends Keeps) := by
  rw [activities]
  exact Takes.bind ((Grants.takes_obtain htokens _).mapError _) fun grant ↦
    takes_listActivities htokens grant query h

/-- A lookup sends one request to the URL of the resource. A resource that is gone is an answer and
no error. -/
theorem takes_lookup (grant : Grant) (raw : String)
    (h : ∀ request : Http.Request, request.method = "GET" → Url.parse raw = .ok request.url →
      Sends request) :
    (p.lookup grant raw).Takes (Session.Move Sends Keeps) := by
  rw [lookup]
  intro s
  refine Takes.bindAt (takes_requestUrl raw s) fun url t hurl ↦ ?_
  have hparse := parse_of_returns_requestUrl hurl
  refine Takes.bind (takes_fetch htokens _ grant fun request hmethod hrequest ↦
    h request hmethod (hrequest ▸ hparse)).attempt (fun answer ↦ ?_) t
  split
  · exact .pure _
  · split
    · exact .pure _
    · exact .throw _
  · exact .throw _

/-- **The directory sends lookups**, and asks nothing about roles and applications. -/
theorem takes_directory (type : ResourceType) (email : String)
    (h : ∀ request, p.LooksUp request → Sends request) :
    (p.directory type email).Takes (Session.Move Sends Keeps) := by
  cases type with
  | group =>
    exact Takes.bind ((Grants.takes_obtain htokens _).mapError _) fun grant ↦
      takes_lookup htokens grant _ fun request hmethod hparse ↦
        h request ⟨hmethod, email, .inl hparse⟩
  | user =>
    exact Takes.bind ((Grants.takes_obtain htokens _).mapError _) fun grant ↦
      takes_lookup htokens grant _ fun request hmethod hparse ↦
        h request ⟨hmethod, email, .inr hparse⟩
  | role => exact .pure _
  | app => exact .pure _

end Provider

/-! ### Feeds -/

/-- Resolving an email asks the directory and keeps its answer. -/
theorem Directory.takes_resolve {Step : Session ω → Session ω → Prop} {d : Directory ω}
    (hd : ∀ type email, (d type email).Takes Step) (type : ResourceType) (email : String)
    (hkeep : ∀ s answer t u, (d type (normalizedEmail email)).Returns s answer t →
      Step u { u with ids := (lookupKey type email, answer.id?) :: u.ids }) :
    (d.resolve type email).Takes Step := by
  rw [resolve]
  refine Takes.get_bind fun s ↦ ?_
  split
  · exact Takes.pure _ s
  · refine Takes.bindAt ((hd type _).mapError _ s) fun answer t hanswer ↦ ?_
    exact Takes.bind (Takes.modify fun u ↦ hkeep s answer t u (returns_mapError.1 hanswer))
      (fun _ ↦ .pure _) t

namespace Feed

variable {f : Feed ω} {Step : Session ω → Session ω → Prop}

/-- Changes are resolved one by one, in order. -/
theorem takes_changes (hresolve : ∀ type email, (f.directory.resolve type email).Takes Step)
    (a : Activity) (cs : List PendingChange) : (f.changes a cs).Takes Step := by
  induction cs with
  | nil => exact .pure []
  | cons c cs ih =>
    rw [changes]
    refine Takes.bind (hresolve c.type c.email) fun id ↦ Takes.bind ih fun rest ↦ ?_
    cases id with
    | none => exact .pure _
    | some id => exact .pure _

/-- An activity that cannot be read in full is left out, which is no step. -/
theorem takes_own (hresolve : ∀ type email, (f.directory.resolve type email).Takes Step)
    (a : Activity) : (f.own a).Takes Step := by
  have hinterpret : (f.interpret a).Takes Step := by
    rw [interpret]
    split
    · exact takes_changes hresolve a _
    · exact .ofExcept _
  rw [own]
  refine Takes.bind hinterpret.attempt fun outcome ↦ ?_
  cases outcome with
  | ok events => exact .pure events
  | error e =>
    refine Takes.get_bind fun s ↦ ?_
    split
    · exact Takes.throw _ s
    · exact Takes.pure _ s

/-- A page is interpreted activity by activity. -/
theorem takes_interpretAll (hresolve : ∀ type email, (f.directory.resolve type email).Takes Step)
    (c : Cursor) (as : List Activity) : (f.interpretAll c as).Takes Step := by
  induction as generalizing c with
  | nil => exact .pure _
  | cons a as ih =>
    rw [interpretAll_cons]
    exact Takes.bind (takes_own hresolve a) fun events ↦ Takes.bind (ih _) fun rest ↦ .pure _

/-- What no lookup changes about the other side, the interpretation of a page does not change. -/
theorem peer_interpretAll {β : Type} {g : ω → β}
    (hresolved : ∀ type email s r t, (f.directory type email).outcome s = .ok (r, t) →
      g t.peer = g s.peer) {c : Cursor} {as : List Activity} {s t : Session ω}
    {r : Except SyncError (List Event × Cursor)}
    (h : (f.interpretAll c as).outcome s = .ok (r, t)) : g t.peer = g s.peer := by
  have htakes : (f.interpretAll c as).Takes fun s t ↦ g t.peer = g s.peer := by
    refine takes_interpretAll (fun type email ↦ ?_) c as
    refine Directory.takes_resolve (fun type email s r t h ↦ ?_) type email fun _ _ _ _ _ ↦ rfl
    exact .single (hresolved type email s r t h)
  exact htakes.keeps (P := fun u ↦ g u.peer = g s.peer) (fun u v huv hu ↦ huv.trans hu) h rfl

/-- Where a poll starts is looked up on the clock, which is no step. -/
theorem takes_defaultStart (start : Option Instant) : (f.defaultStart start).Takes Step := by
  cases start with
  | some time => exact .pure time
  | none => exact Takes.get_bind fun s ↦ Takes.checked _ s

/-- **A poll takes the steps of its source and of its resolved emails**, and no others. Its source
is asked the query of a cursor. -/
theorem takes_poll_of_queries (hsource : ∀ c, (f.source (f.query c)).Takes Step)
    (hresolve : ∀ type email, (f.directory.resolve type email).Takes Step) (token : String)
    (requested : UInt32) (start : Option Instant) : (f.poll token requested start).Takes Step := by
  rw [poll]
  refine Takes.bind (.ofExcept _) fun given ↦ ?_
  refine Takes.bind (takes_defaultStart start) fun begin ↦ ?_
  refine Takes.bind ((hsource _).mapError _) fun page ↦ ?_
  exact Takes.bind (takes_interpretAll hresolve _ page.items) fun seen ↦ .pure _

/-- The same for a source that takes these steps whatever it is asked. -/
theorem takes_poll (hsource : ∀ query, (f.source query).Takes Step)
    (hresolve : ∀ type email, (f.directory.resolve type email).Takes Step) (token : String)
    (requested : UInt32) (start : Option Instant) : (f.poll token requested start).Takes Step :=
  takes_poll_of_queries (fun _ ↦ hsource _) hresolve token requested start

end Feed

end AuditFeed
