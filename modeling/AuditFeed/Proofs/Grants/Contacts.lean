import AuditFeed.Proofs.Fetch
import AuditFeed.Proofs.Grants.Asking

/-!
# What a request does on the outside

A request through a client may ask the token source for a token, and it may send something, any
number of times. In which order it does so is told by a record of both, each as a `Contact`.

## The record

`Provider.watched` is the same provider, which also writes down each answer of the token source and
each request that it sends. The source writes as every call does that is recorded (`Call.recorded`),
and the network with each exchange, before there is an answer: so an attempt that fails is written
down too.

`Call.Shows` says that a call and its watched form do the same, and what is written down. It is put
together along a call (`Call.Shows.bind`), as the record is.

## Sending

Sending is written down as often as the request is sent (`Network.exists_shows_send`). That the
watched network goes through the same attempts is seen from the course of sending: it depends on the
session up to each attempt, and these sessions differ by the record alone
(`Network.before_watched`).

What is made of a response is not written down at all, so for `Provider.fetch` it is left to see
what is done before the sending: `Provider.fetch_eq_bind` parts it there.

## Main statements

* `Network.Ends.watched`, `Network.exists_shows_send`: what sending writes down.
* `Provider.exists_shows_deliver`: what is written down once there is a token.
-/

namespace AuditFeed

open Call

variable {ω : Type}

/-! ### The record -/

/-- What a request through a client does on the outside. -/
inductive Contact where
  /-- A token is asked for, with this answer. -/
  | ask (scope : String) (answer : Except AuthError Token)
  /-- The request is sent. -/
  | send (request : Http.Request)

/-- The same network, which also writes down each request that is sent. -/
def Network.watched (net : Network ω) : Network (ω × List Contact) where
  exchange request peer :=
    let (exchange, next) := net.exchange request peer.1
    (exchange, next, peer.2 ++ [.send request])
  draw peer :=
    let (n, next) := net.draw peer.1
    (n, next, peer.2)

/-- The same source, which also writes down each answer that it gives. -/
def TokenSource.watched (tokens : TokenSource ω) : TokenSource (ω × List Contact) :=
  fun scope ↦ (tokens scope).recorded (.ask scope)

/-- The same provider, which also writes down all contacts. -/
def Provider.watched (p : Provider ω) : Provider (ω × List Contact) :=
  ⟨p.network.watched, p.policy, p.endpoints, p.tokens.watched⟩

/-! ### Sending -/

namespace Network

variable {net : Network ω} {policy : RetryPolicy} {request : Http.Request} {s t : Session ω}

/-- One exchange is written down. -/
theorem sent_watched (past : List Contact) :
    net.watched.sent request (s.beside past) =
      (net.sent request s).beside (past ++ [.send request]) := by
  have hsame : (net.watched.exchange request (s.beside past).peer).1 =
      (net.exchange request s.peer).1 := rfl
  simp only [sent, hsame]
  split
  · exact Session.cancel_beside
      ({ s with peer := (net.exchange request s.peer).2 }.note (.attempt request)) _
  · rfl

/-- A pause is not. -/
theorem rested_watched (record : List Contact) (i : Nat) :
    net.watched.rested policy i (s.beside record) =
      (net.rested policy i s).beside record :=
  Session.pause_beside { s with peer := (net.draw s.peer).2 } record (net.delay policy i s)

/-- Every attempt is written down. -/
theorem before_watched (past : List Contact) (i : Nat) :
    net.watched.before policy request (s.beside past) i =
      (net.before policy request s i).beside
        (past ++ List.replicate i (.send request)) := by
  induction i with
  | zero =>
    rw [List.replicate_zero, List.append_nil]
    rfl
  | succ i ih =>
    rw [before_succ, before_succ, ih, sent_watched, rested_watched, List.append_assoc,
      ← List.replicate_succ']

/-- The same attempts are made. -/
theorem tries_watched {past : List Contact} {i : Nat} (h : net.Tries policy request s i) :
    net.watched.Tries policy request (s.beside past) i := by
  obtain ⟨hle, hlive, hfailed⟩ := h
  refine ⟨hle, ?_, fun j hj ↦ ?_⟩
  · rw [before_watched]
    exact hlive
  · rw [before_watched]
    exact hfailed j hj

/-- **Sending is written down as often as the request is sent.** -/
theorem Ends.watched {n : Nat} {r : Except RequestError Http.Response}
    (h : net.Ends policy request s n r t) (past : List Contact) :
    net.watched.Ends policy request (s.beside past) n r
      (t.beside (past ++ List.replicate n (.send request))) := by
  have hsent (i : Nat) :
      net.watched.sent request (net.watched.before policy request (s.beside past) i) =
        (net.sent request (net.before policy request s i)).beside
          (past ++ List.replicate (i + 1) (.send request)) := by
    rw [before_watched, sent_watched, List.append_assoc, ← List.replicate_succ']
  have hheard (i : Nat) :
      net.watched.heard request (net.watched.before policy request (s.beside past) i) =
        net.heard request (net.before policy request s i) := by
    rw [before_watched]
    rfl
  cases h with
  | atEntry h =>
    rw [List.replicate_zero, List.append_nil]
    exact .atEntry h
  | response h hr =>
    rw [← hsent]
    exact .response (tries_watched h) ((hheard _).trans hr)
  | failure h he hlast =>
    rw [← hsent]
    exact .failure (tries_watched h) ((hheard _).trans he) hlast
  | inFlight h hr =>
    rw [← hsent]
    exact .inFlight (tries_watched h) ((hheard _).trans hr)
  | beforePause h he hnext hc =>
    rw [← hsent]
    refine .beforePause (tries_watched h) ((hheard _).trans he) hnext ?_
    rw [hsent]
    exact hc
  | inPause h he hnext hc hpause =>
    rw [← before_watched]
    refine .inPause (tries_watched h) ((hheard _).trans he) hnext ?_ ?_
    · rw [hsent]
      exact hc
    · rw [before_watched]
      exact hpause

/-- Sending and its watched form do the same, and the request is written down some number of times.
-/
theorem exists_shows_send (net : Network ω) (policy : RetryPolicy) (request : Http.Request)
    (s : Session ω) :
    ∃ n, Shows (net.send policy request) (net.watched.send policy request) s
      (List.replicate n (.send request)) := by
  obtain ⟨n, r, t, hends⟩ : ∃ n r t, net.Ends policy request s n r t := exists_ends
  refine ⟨n, fun past ↦ ?_⟩
  rw [hends.outcome_send, (hends.watched past).outcome_send]
  rfl

end Network

/-! ### What a token is for -/

namespace Provider

variable {α : Type} {p : Provider ω} {d : Json.Document α} {s t : Session ω}

/-- The request for a URL that carries the secret of a token. -/
def bearing (secret : String) (url : Url) : Http.Request :=
  { Http.Request.bare "GET" url with
    authorization := some s!"Bearer {secret}", accept := some "application/json" }

/-- What is done with the secret: the request is sent with it, if a header can hold it. -/
def deliver (p : Provider ω) (d : Json.Document α) (url : Url) (secret : String) :
    Call ω RequestError α :=
  if Http.isHeaderText s!"Bearer {secret}" then do
    readResponse d (← p.network.send p.policy (bearing secret url))
  else throw (.transport badToken)

/-- A request has its token first, and is sent with it then. -/
theorem fetch_eq_bind (p : Provider ω) (d : Json.Document α) (grant : Grant) (url : Url) :
    p.fetch d grant url =
      (Grants.bearer p.tokens grant).mapError RequestError.auth >>= p.deliver d url := by
  rw [fetch, authorized, bind_assoc]
  congr 1
  funext secret
  dsimp only
  rw [deliver]
  split
  · rw [pure_bind]
    rfl
  · rfl

theorem shows_readResponse (d : Json.Document α) (response : Http.Response) (s : Session ω) :
    Shows (readResponse d response) (readResponse d response) s ([] : List Contact) := by
  intro past
  have hnow : (s.beside past).now = s.now := rfl
  rw [List.append_nil, readResponse, readResponse]
  simp only [outcome_bind, outcome_get, outcome_checked, hnow]
  rcases RateLimit.ofHeaders response.headers s.now with o | rateLimit
  · rfl
  · rcases response.text with e | body
    · rfl
    · dsimp only [Except.map]
      split
      · rcases d.parse body with e | a <;> rfl
      · rfl

/-- **With a token, only requests that carry it are written down.** -/
theorem exists_shows_deliver (p : Provider ω) (d : Json.Document α) (url : Url) (secret : String)
    (s : Session ω) :
    ∃ n, Shows (p.deliver d url secret) (p.watched.deliver d url secret) s
      (List.replicate n (.send (bearing secret url))) := by
  rw [deliver, deliver]
  split
  · obtain ⟨n, hsend⟩ := Network.exists_shows_send p.network p.policy (bearing secret url) s
    exact ⟨n, hsend.bind_of_silent fun response t ↦ shows_readResponse d response t⟩
  · exact ⟨0, .throw _ s⟩

/-- Neither the clock nor the grants are touched by what is done with a token. -/
theorem undisturbed_deliver {url : Url} {secret : String} {r : Except RequestError α}
    (h : (p.deliver d url secret).outcome s = .ok (r, t)) : s.Undisturbed t := by
  refine Session.Undisturbed.of_takes ?_ h
  rw [deliver]
  split
  · exact Takes.bind (fun u r v h ↦ .single (Network.undisturbed_send h))
      fun response ↦ takes_readResponse d response
  · exact .throw _

end Provider

end AuditFeed
