import AuditFeed.Proofs.Grants.Contacts
import AuditFeed.Proofs.Grants.Keeping
import AuditFeed.Proofs.Instant.Order

/-!
# The token of a client over many requests

A client is a grant that is kept, and a request through it looks at the token that is kept at that
time. If the token is expired, another one is asked for first, and it is kept in the place of the
old one before anything is sent.

## One request

There are three ways in which a request can go, the three cases of `Grant.Course`: the token is
used, another one is had and used, or there is no other one. What is written down of the request is
a part of the course, so when a token is asked for and what is sent with it is read off the cases.
That a request goes in one of them is `Provider.exists_shows_fetch`.

The source may answer anything, as long as it leaves the grants alone and does not turn the clock
back (`TokenSource.IsApart`). A token that is expired when it comes is one of its answers: it is
used by the request that has asked for it, and the next one asks again.

## Many requests

A `Provider.History` is the list of the requests so far, each with its contacts and its result. It
says which token is kept (`Provider.History.find?_eq`): the one that was fetched last. So what a
request does is told by the requests before it and by the clock. The induction is on the history,
and every further statement is about one request at a place of the list (`Provider.History.split`).

## Main statements

* `TokenSupply.isApart`: all supplies of tokens stay apart.
* `Provider.exists_shows_fetch`: how one request goes.
* `Provider.History.refreshes_on_demand`: what each request of a history carries, when it asks for a
  token, and what a failure leaves.
-/

namespace AuditFeed

open Call

variable {ω : Type}

/-! ### Expired tokens -/

namespace Token

variable {token : Token} {now later : Instant}

/-- A token that is expired stays so. -/
theorem isExpired_of_le (h : token.isExpired now = true) (hle : now ≤ later) :
    token.isExpired later = true := by
  rw [isExpired] at h ⊢
  cases hexpires : token.expiresAt with
  | none =>
    rw [hexpires] at h
    cases h
  | some time =>
    rw [hexpires] at h
    exact decide_eq_true (Instant.le_trans (of_decide_eq_true h) hle)

/-- **A token counts as expired a minute before its end.** -/
theorem isExpired_of_issue {secret scope : String} {n : Int}
    (h : issue now secret (some n) scope = .ok token) :
    ∃ ends early, now.add? (.ofSeconds n) = some ends ∧
      ends.sub? (.ofSeconds 60) = some early ∧
      ∀ later, token.isExpired later = true ↔ early ≤ later := by
  rw [issue_some] at h
  obtain ⟨ends, hends, h⟩ := Overflow.check_bind_ok_iff.1 h
  obtain ⟨early, hearly, h⟩ := Overflow.check_bind_ok_iff.1 h
  cases h
  exact ⟨ends, early, hends, hearly, fun later ↦ decide_eq_true_iff⟩

end Token

/-! ### Sources that stay apart -/

/-- A source that leaves the grants alone and does not turn the clock back. What it answers is its
own affair: tokens of any age, for any scope, and any errors. -/
structure TokenSource.IsApart (tokens : TokenSource ω) : Prop where
  grants_eq {scope : String} {s t : Session ω} {r : Except AuthError Token} :
    (tokens scope).outcome s = .ok (r, t) → t.grants = s.grants
  now_le {scope : String} {s t : Session ω} {r : Except AuthError Token} :
    (tokens scope).outcome s = .ok (r, t) → s.now ≤ t.now

/-- Replies of any kind leave the clock and the grants alone. -/
theorem Replies.takes_ask_undisturbed {κ ε α : Type} (replies : Replies ω κ ε α) (gone : ε)
    (key : κ) : (replies.ask gone key).Takes Session.Undisturbed := by
  intro s r t h
  have hheard : s.Undisturbed { s with peer := (replies.reply key s.peer).2 } := ⟨rfl, rfl⟩
  rw [outcome_ask] at h
  split at h
  · cases h
    exact .refl
  · dsimp only at h
    split at h
    · cases h
      exact .single (hheard.trans (.cancel _))
    · cases h
      exact .single (hheard.trans (.cancel _))
    · cases h
      exact .single hheard

/-- **All supplies of tokens stay apart**: answers of any kind, and service accounts. -/
theorem TokenSupply.isApart (tokens : TokenSupply ω) : tokens.source.IsApart := by
  have htakes (scope : String) : (tokens.source scope).Takes Session.Undisturbed := by
    cases tokens with
    | replies r => exact r.takes_ask_undisturbed _ scope
    | account a => exact a.takes_tokens_undisturbed scope
  constructor
  · intro scope s t r h
    exact (Session.Undisturbed.of_takes (htakes scope) h).grants
  · intro scope s t r h
    rw [(Session.Undisturbed.of_takes (htakes scope) h).now]
    exact Instant.le_refl _

/-! ### The three ways of a request -/

/-- **How a request through a client goes**, where the grant that is kept is `held`: what is written
down, the result, and the grants that are left. -/
inductive Grant.Course (held : Grant) (url : Url) (now : Instant) (grants : Grants) :
    List Contact → Except RequestError Unit → Grants → Prop
  /-- The token is good, and it is used. -/
  | used (h : held.token.isExpired now = false) (n : Nat) (r : Except RequestError Unit) :
      Course held url now grants
        (List.replicate n (.send (Provider.bearing held.token.secret url))) r grants
  /-- The token is expired, and the one that is had in its place is kept and used. -/
  | renewed (h : held.token.isExpired now = true) (token : Token) (n : Nat)
      (r : Except RequestError Unit) :
      Course held url now grants
        (.ask held.scope (.ok token) ::
          List.replicate n (.send (Provider.bearing token.secret url))) r
        (grants.insert { held with token })
  /-- The token is expired, and there is no other one. -/
  | failed (h : held.token.isExpired now = true) (e : AuthError) :
      Course held url now grants [.ask held.scope (.error e)] (.error (.auth e)) grants

namespace Grants

variable {tokens : TokenSource ω} {client held : Grant} {s t : Session ω}

/-- A token that is good is used without asking. -/
theorem returns_bearer_of_fresh (hheld : s.grants.find? client.scope = some held)
    (hfresh : held.token.isExpired s.now = false) :
    (bearer tokens client).Returns s held.token.secret s := by
  rw [Returns, bearer, outcome_bind, outcome_get]
  dsimp only
  rw [hheld, Option.getD_some, hfresh]
  rfl

/-- Keeps a token in the place of an expired one. -/
def renew (held : Grant) (token : Token) : Call ω AuthError String := do
  modify fun s ↦ { s with grants := s.grants.insert { held with token } }
  return token.secret

/-- In the place of an expired token another one is asked for. -/
theorem outcome_bearer_of_expired (hheld : s.grants.find? client.scope = some held)
    (hexpired : held.token.isExpired s.now = true) :
    (bearer tokens client).outcome s = (tokens held.scope >>= renew held).outcome s := by
  rw [bearer, outcome_bind, outcome_get]
  dsimp only
  rw [hheld, Option.getD_some, hexpired]
  rfl

theorem shows_renew (held : Grant) (token : Token) (s : Session ω) :
    Shows (renew held token) (renew held token) s ([] : List Contact) := by
  intro past
  rw [List.append_nil]
  rfl

/-- With a good token nothing is written down. -/
theorem shows_bearer_of_fresh (hheld : s.grants.find? client.scope = some held)
    (hfresh : held.token.isExpired s.now = false) :
    Shows (bearer tokens client) (bearer tokens.watched client) s [] := by
  intro past
  have hplain : (bearer tokens client).Returns s held.token.secret s :=
    returns_bearer_of_fresh hheld hfresh
  have hwatched : (bearer tokens.watched client).Returns (s.beside past)
      held.token.secret (s.beside past) := returns_bearer_of_fresh hheld hfresh
  rw [Returns] at hplain hwatched
  rw [hplain, hwatched, List.append_nil]
  rfl

/-- In the place of an expired token, what the source is asked is written down. -/
theorem shows_bearer_of_expired {record : List Contact}
    (hheld : s.grants.find? client.scope = some held)
    (hexpired : held.token.isExpired s.now = true)
    (h : Shows (tokens held.scope >>= renew held) (tokens.watched held.scope >>= renew held) s
      record) :
    Shows (bearer tokens client) (bearer tokens.watched client) s record := by
  intro past
  have hwatched : (bearer tokens.watched client).outcome (s.beside past) =
      (tokens.watched held.scope >>= renew held).outcome (s.beside past) :=
    outcome_bearer_of_expired hheld hexpired
  rw [outcome_bearer_of_expired hheld hexpired, hwatched]
  exact h past

end Grants

namespace Provider

variable {α : Type} {p : Provider ω} {client held : Grant} {s : Session ω}

/-- With a token the request is sent, any number of times. -/
theorem exists_shows_fetch_of_returns (d : Json.Document α) (url : Url) {secret : String}
    {u : Session ω} {record : List Contact}
    (hbearer : Shows (Grants.bearer p.tokens client) (Grants.bearer p.watched.tokens client) s
      record)
    (hsecret : (Grants.bearer p.tokens client).Returns s secret u) :
    ∃ n, Shows (p.fetch d client url) (p.watched.fetch d client url) s
        (record ++ List.replicate n (.send (bearing secret url))) ∧
      ∀ r t, (p.fetch d client url).outcome s = .ok (r, t) → u.Undisturbed t := by
  have hreturns : ((Grants.bearer p.tokens client).mapError RequestError.auth).Returns s secret u :=
    returns_mapError.2 hsecret
  obtain ⟨n, hdeliver⟩ := p.exists_shows_deliver d url secret u
  rw [fetch_eq_bind, fetch_eq_bind]
  refine ⟨n, (hbearer.mapError _).bind hreturns hdeliver, fun r t h ↦ ?_⟩
  rw [Returns] at hreturns
  rw [outcome_bind, hreturns] at h
  exact undisturbed_deliver h

/-- Without a token nothing is sent. -/
theorem shows_fetch_of_not_returns (d : Json.Document α) (url : Url) {record : List Contact}
    (hbearer : Shows (Grants.bearer p.tokens client) (Grants.bearer p.watched.tokens client) s
      record)
    (hnone : ∀ secret u, ¬ (Grants.bearer p.tokens client).Returns s secret u) :
    Shows (p.fetch d client url) (p.watched.fetch d client url) s record := by
  rw [fetch_eq_bind, fetch_eq_bind]
  exact (hbearer.mapError _).bind_of_not_returns fun secret u h ↦
    hnone secret u (returns_mapError.1 h)

/-- **A request goes in one of the three ways**, and does what it does without the record. -/
theorem exists_shows_fetch (hapart : p.tokens.IsApart) (d : Json.Document α) (url : Url)
    (hheld : s.grants.find? client.scope = some held) :
    ∃ record, Shows (p.fetch d client url) (p.watched.fetch d client url) s record ∧
      ∀ r t, (p.fetch d client url).outcome s = .ok (r, t) →
        held.Course url s.now s.grants record (r.map fun _ ↦ ()) t.grants ∧ s.now ≤ t.now := by
  cases hexpired : held.token.isExpired s.now with
  | false =>
    obtain ⟨n, hshows, hafter⟩ := exists_shows_fetch_of_returns (p := p) d url
      (Grants.shows_bearer_of_fresh hheld hexpired) (Grants.returns_bearer_of_fresh hheld hexpired)
    refine ⟨_, hshows, fun r t h ↦ ?_⟩
    rw [(hafter r t h).grants, (hafter r t h).now]
    exact ⟨.used hexpired n _, Instant.le_refl _⟩
  | true =>
    have hbearer : (Grants.bearer p.tokens client).outcome s =
        (p.tokens held.scope >>= Grants.renew held).outcome s :=
      Grants.outcome_bearer_of_expired hheld hexpired
    -- If the source returns no token, the request ends with its answer.
    have hrefused {record : List Contact}
        (hsource : ∀ token u, ¬ (p.tokens held.scope).Returns s token u)
        (h : Shows (p.tokens held.scope) (p.tokens.watched held.scope) s record) :
        Shows (p.fetch d client url) (p.watched.fetch d client url) s record := by
      refine shows_fetch_of_not_returns d url (Grants.shows_bearer_of_expired hheld hexpired
        (h.bind_of_not_returns hsource)) fun secret u hreturns ↦ ?_
      rw [Returns, hbearer] at hreturns
      obtain ⟨token, v, htoken, -⟩ := returns_bind.1 hreturns
      exact hsource token v htoken
    rcases hsource : (p.tokens held.scope).outcome s with o | ⟨e | token, u⟩
    · refine ⟨[], hrefused (fun token u h ↦ by cases hsource.symm.trans h)
        (Shows.of_overflow hsource), fun r t h ↦ ?_⟩
      rw [fetch_eq_bind, outcome_bind, outcome_mapError, hbearer, outcome_bind, hsource] at h
      cases h
    · refine ⟨_, hrefused (fun token u h ↦ by cases hsource.symm.trans h)
        (Shows.of_outcome hsource), fun r t h ↦ ?_⟩
      rw [fetch_eq_bind, outcome_bind, outcome_mapError, hbearer, outcome_bind, hsource] at h
      cases h
      rw [hapart.grants_eq hsource]
      exact ⟨.failed hexpired e, hapart.now_le hsource⟩
    · have hreturns : (Grants.bearer p.tokens client).Returns s token.secret
          { u with grants := u.grants.insert { held with token } } := by
        rw [Returns, hbearer, outcome_bind, hsource]
        rfl
      have hanswer : Shows (p.tokens held.scope) (p.tokens.watched held.scope) s
          [.ask held.scope (.ok token)] := .of_outcome hsource
      have hasked := hanswer.bind hsource (Grants.shows_renew held token u)
      obtain ⟨n, hshows, hafter⟩ := exists_shows_fetch_of_returns d url
        (Grants.shows_bearer_of_expired hheld hexpired hasked) hreturns
      refine ⟨_, hshows, fun r t h ↦ ?_⟩
      rw [(hafter r t h).grants, (hafter r t h).now, hapart.grants_eq hsource]
      have hnow : s.now ≤ u.now := hapart.now_le hsource
      exact ⟨.renewed hexpired token n _, hnow⟩

end Provider

/-! ### Histories -/

namespace Contact

/-- The scopes that a token was asked for. -/
def asked (record : List Contact) : List String :=
  record.filterMap fun
    | .ask scope _ => some scope
    | .send _ => none

/-- The token that was fetched, if there was one. -/
def fetched? (record : List Contact) : Option Token :=
  record.findSome? fun
    | .ask _ (.ok token) => some token
    | _ => none

@[simp] theorem asked_sent (n : Nat) (request : Http.Request) :
    asked (List.replicate n (.send request)) = [] := by
  simp [asked]

@[simp] theorem fetched?_sent (n : Nat) (request : Http.Request) :
    fetched? (List.replicate n (.send request)) = none := by
  simp [fetched?]

end Contact

/-- One request through a client: for what, what it did on the outside, and the result. -/
structure Errand where
  /-- The URL. -/
  url : Url
  /-- The contacts, in order. -/
  contacts : List Contact
  /-- The result. -/
  result : Except RequestError Unit

/-- The token that is kept after requests: the one that was fetched last, or the first one. -/
def lastToken (first : Token) (calls : List Errand) : Token :=
  calls.foldl (fun held c ↦ (Contact.fetched? c.contacts).getD held) first

/-- A request that has fetched a token makes it the last one. -/
theorem lastToken_concat (first : Token) (calls : List Errand) (c : Errand) :
    lastToken first (calls ++ [c]) =
      (Contact.fetched? c.contacts).getD (lastToken first calls) := by
  rw [lastToken, List.foldl_append]
  rfl

namespace Grant.Course

variable {held : Grant} {url : Url} {now : Instant} {grants left : Grants} {record : List Contact}
  {result : Except RequestError Unit}

/-- **The token that was fetched is kept**, in the place of the one before it. -/
theorem find?_eq (h : held.Course url now grants record result left)
    (hheld : grants.find? held.scope = some held) :
    left.find? held.scope =
      some { held with token := (Contact.fetched? record).getD held.token } := by
  cases h with
  | used =>
    rw [Contact.fetched?_sent]
    exact hheld
  | renewed _ token => exact (Grants.find?_insert _ _ _).trans (if_pos rfl)
  | failed => exact hheld

/-- **A token is asked for once, or not at all**: exactly if the one that is kept is expired. -/
theorem asked_eq (h : held.Course url now grants record result left) :
    Contact.asked record = if held.token.isExpired now then [held.scope] else [] := by
  cases h with
  | used hfresh => rw [Contact.asked_sent, if_neg (by simp [hfresh])]
  | renewed hexpired token n =>
    rw [if_pos hexpired]
    exact congrArg (held.scope :: ·) (Contact.asked_sent n _)
  | failed hexpired =>
    rw [if_pos hexpired]
    rfl

/-- **What is sent carries the token that is kept**, or the one that was fetched before it. -/
theorem exists_token_of_sent (h : held.Course url now grants record result left)
    {request : Http.Request} (hsent : .send request ∈ record) :
    ∃ token, request = Provider.bearing token.secret url ∧
      (token = held.token ∧ token.isExpired now = false ∧ Contact.asked record = [] ∨
        record.head? = some (.ask held.scope (.ok token))) := by
  cases h with
  | used hfresh n =>
    cases List.eq_of_mem_replicate hsent
    exact ⟨held.token, rfl, .inl ⟨rfl, hfresh, Contact.asked_sent n _⟩⟩
  | renewed _ token n =>
    rcases List.mem_cons.1 hsent with heq | hsent
    · cases heq
    · cases List.eq_of_mem_replicate hsent
      exact ⟨token, rfl, .inr rfl⟩
  | failed => cases List.mem_singleton.1 hsent

/-- **After an error of the source nothing is sent**, and everything is kept as it is. -/
theorem eq_of_refused (h : held.Course url now grants record result left) {scope : String}
    {e : AuthError} (hrefused : .ask scope (.error e) ∈ record) :
    record = [.ask held.scope (.error e)] ∧ result = .error (.auth e) ∧ left = grants := by
  cases h with
  | used => cases List.eq_of_mem_replicate hrefused
  | renewed =>
    rcases List.mem_cons.1 hrefused with heq | hrefused
    · cases heq
    · cases List.eq_of_mem_replicate hrefused
  | failed _ e' =>
    cases List.mem_singleton.1 hrefused
    exact ⟨rfl, rfl, rfl⟩

end Grant.Course

namespace Provider

/-- The request is made in `s` and leaves `t`, and these are all its contacts. -/
def Makes (p : Provider ω) (client : Grant) (c : Errand) (s t : Session ω) : Prop :=
  ∃ (α : Type) (d : Json.Document α) (r : Except RequestError α), r.map (fun _ ↦ ()) = c.result ∧
    (p.watched.fetch d client c.url).outcome (s.beside []) =
      .ok (r, t.beside c.contacts)

/-- **A history of requests through a client**: these were made, one after the other, since the
client was kept. -/
inductive History (p : Provider ω) (client : Grant) : List Errand → Session ω → Prop
  /-- The client is kept, and no request was made. -/
  | start {s : Session ω} (h : s.grants.find? client.scope = some client) : History p client [] s
  /-- Something else goes on, or time goes by. -/
  | elapse {calls : List Errand} {s t : Session ω} (h : History p client calls s)
      (hkept : t.grants.find? client.scope = s.grants.find? client.scope) (hnow : s.now ≤ t.now) :
      History p client calls t
  /-- A request is made. -/
  | call {calls : List Errand} {c : Errand} {s t : Session ω} (h : History p client calls s)
      (hc : p.Makes client c s t) : History p client (calls ++ [c]) t

variable {p : Provider ω} {client held : Grant} {calls before after : List Errand} {c : Errand}
  {s t : Session ω}

section

variable (hapart : p.tokens.IsApart)
include hapart

/-- What was made goes in one of the three ways, at a time that is not before it. -/
theorem Makes.course (h : p.Makes client c s t)
    (hheld : s.grants.find? client.scope = some held) :
    held.Course c.url s.now s.grants c.contacts c.result t.grants ∧ s.now ≤ t.now := by
  obtain ⟨α, d, r, hr, hc⟩ := h
  obtain ⟨record, hshows, hcourse⟩ := exists_shows_fetch hapart d c.url hheld
  have hsame := (hshows []).symm.trans hc
  rcases hplain : (p.fetch d client c.url).outcome s with o | ⟨r', t'⟩ <;> rw [hplain] at hsame
  · cases hsame
  · obtain ⟨rfl, hleft⟩ := Prod.mk.inj (Except.ok.inj hsame)
    obtain ⟨rfl, hrecord⟩ := Session.beside_inj hleft
    rw [← hr, ← hrecord]
    exact hcourse _ _ hplain

/-- Every request that ends is made with some contacts. -/
theorem exists_makes {α : Type} {d : Json.Document α} {url : Url} {r : Except RequestError α}
    (hheld : s.grants.find? client.scope = some held)
    (h : (p.fetch d client url).outcome s = .ok (r, t)) :
    ∃ c : Errand, c.url = url ∧ c.result = r.map (fun _ ↦ ()) ∧ p.Makes client c s t := by
  obtain ⟨record, hshows, -⟩ := exists_shows_fetch hapart d url hheld
  refine ⟨⟨url, record, r.map fun _ ↦ ()⟩, rfl, rfl, α, d, r, rfl, ?_⟩
  rw [hshows [], h]
  rfl

namespace History

/-- **A history says which token is kept**: the one that was fetched last. -/
theorem find?_eq (h : History p client calls s) :
    s.grants.find? client.scope = some { client with token := lastToken client.token calls } := by
  induction h with
  | start h => exact h
  | elapse _ hkept _ ih => exact hkept.trans ih
  | call _ hc ih =>
    rw [lastToken_concat]
    exact (hc.course hapart ih).1.find?_eq ih

/-- Each request of a history was made after the requests before it, and before all that followed.
-/
theorem split (h : History p client (before ++ c :: after) s) :
    ∃ u v, History p client before u ∧ p.Makes client c u v ∧ v.now ≤ s.now := by
  generalize hcalls : before ++ c :: after = calls at h
  induction h generalizing after with
  | start => simp at hcalls
  | elapse _ _ hnow ih =>
    obtain ⟨u, v, hbefore, hc, hlater⟩ := ih hcalls
    exact ⟨u, v, hbefore, hc, Instant.le_trans hlater hnow⟩
  | @call calls c' u v h hc ih =>
    -- The last request is the one in question, or that one is in the history before it.
    rcases append_cons_eq_concat hcalls with ⟨rfl, rfl⟩ | ⟨rest, hrest⟩
    · exact ⟨u, v, h, hc, Instant.le_refl _⟩
    · obtain ⟨u', v', hbefore, hmakes, hlater⟩ := ih hrest
      have hnow := (hc.course hapart (h.find?_eq hapart)).2
      exact ⟨u', v', hbefore, hmakes, Instant.le_trans hlater hnow⟩

/-- After an error of the source the next request asks again. -/
theorem asked_of_refused {next : Errand} {rest : List Errand} {scope : String} {e : AuthError}
    (h : History p client (before ++ c :: next :: rest) s)
    (hrefused : .ask scope (.error e) ∈ c.contacts) :
    Contact.asked next.contacts = [client.scope] := by
  have hsplit : before ++ c :: next :: rest = before ++ [c] ++ next :: rest := by simp
  rw [hsplit] at h
  obtain ⟨u', v', hagain, hnext, -⟩ := h.split hapart
  obtain ⟨u, v, hbefore, hc, hlater⟩ := hagain.split hapart
  obtain ⟨hcourse, hnow⟩ := hc.course hapart (hbefore.find?_eq hapart)
  obtain ⟨hrecord, -, -⟩ := hcourse.eq_of_refused hrefused
  -- The token that is kept is the same one, and it has not become any younger.
  have hsame : lastToken client.token (before ++ [c]) = lastToken client.token before := by
    rw [lastToken_concat, hrecord]
    rfl
  have hexpired : (lastToken client.token before).isExpired u.now = true := by
    have hasked := hcourse.asked_eq
    rw [hrecord] at hasked
    by_contra hfresh
    rw [if_neg hfresh] at hasked
    cases hasked
  have hstill : (lastToken client.token (before ++ [c])).isExpired u'.now = true := by
    rw [hsame]
    exact Token.isExpired_of_le hexpired (Instant.le_trans hnow hlater)
  have hasked := (hnext.course hapart (hagain.find?_eq hapart)).1.asked_eq
  rwa [if_pos hstill] at hasked

/-- **Tokens are refreshed on demand.** Take any history of requests through one client, for any
URLs, with any answers of the token source and of the other side, and with whatever else goes on
between them, at times that do not decrease:

* each request that is sent carries a token: the one that was kept, which was not expired at that
  time, and then none was asked for; or the one that was fetched for the client's own scope by the
  same request, before anything was sent;
* a token is asked for exactly if the one that was kept was expired, once and for the client's own
  scope;
* if that fails, nothing is sent, the result is the error of the source, the grants are left as they
  were, and the next request asks again;
* the client stays where it is kept, with the token that was fetched last;
* every request that ends, whatever it is read as, is one more of such a history;
* a token counts as expired a minute before its end. -/
theorem refreshes_on_demand (h : History p client calls s) :
    (∀ before c after, calls = before ++ c :: after →
      ∃ u v, History p client before u ∧ p.Makes client c u v ∧
        (∀ request, .send request ∈ c.contacts → ∃ token, request = bearing token.secret c.url ∧
          (token = lastToken client.token before ∧ token.isExpired u.now = false ∧
              Contact.asked c.contacts = [] ∨
            c.contacts.head? = some (.ask client.scope (.ok token)))) ∧
        (Contact.asked c.contacts =
          if (lastToken client.token before).isExpired u.now then [client.scope] else []) ∧
        ∀ scope e, .ask scope (.error e) ∈ c.contacts →
          c.contacts = [.ask client.scope (.error e)] ∧ c.result = .error (.auth e) ∧
            v.grants = u.grants ∧ ∀ next rest, after = next :: rest →
              Contact.asked next.contacts = [client.scope]) ∧
      s.grants.find? client.scope = some { client with token := lastToken client.token calls } ∧
      (∀ (α : Type) (d : Json.Document α) (url : Url) (r : Except RequestError α) (t : Session ω),
        (p.fetch d client url).outcome s = .ok (r, t) →
          ∃ c : Errand, c.url = url ∧ c.result = r.map (fun _ ↦ ()) ∧
            History p client (calls ++ [c]) t) ∧
      ∀ now secret n scope token, Token.issue now secret (some n) scope = .ok token →
        ∃ ends early, now.add? (.ofSeconds n) = some ends ∧
          ends.sub? (.ofSeconds 60) = some early ∧
          ∀ later, token.isExpired later = true ↔ early ≤ later := by
  refine ⟨?_, h.find?_eq hapart, ?_, fun _ _ _ _ _ ↦ Token.isExpired_of_issue⟩
  · rintro before c after rfl
    obtain ⟨u, v, hbefore, hc, -⟩ := h.split hapart
    have hcourse := (hc.course hapart (hbefore.find?_eq hapart)).1
    refine ⟨u, v, hbefore, hc, fun request ↦ hcourse.exists_token_of_sent, hcourse.asked_eq, ?_⟩
    intro scope e hrefused
    obtain ⟨hrecord, hresult, hleft⟩ := hcourse.eq_of_refused hrefused
    refine ⟨hrecord, hresult, hleft, ?_⟩
    rintro next rest rfl
    exact h.asked_of_refused hapart hrefused
  · intro α d url r t hfetch
    obtain ⟨c, hurl, hresult, hc⟩ := exists_makes hapart (h.find?_eq hapart) hfetch
    exact ⟨c, hurl, hresult, h.call hc⟩

end History

end

/-! ### A source that recovers -/

/-- A token that is expired from the start. -/
def briefToken : Token := ⟨"brief", some .epoch, Scope.groups⟩

/-- A token that never expires. -/
def lastingToken : Token := ⟨"lasting", none, Scope.groups⟩

/-- The first answer is an error, the second one a token that is expired already, and from then on
there is one that lasts. -/
def recoveringSupply : TokenSupply Nat :=
  .replies ⟨fun _ asked ↦
    (⟨match asked with
      | 0 => .error (.rejected 503 "later")
      | 1 => .ok briefToken
      | _ => .ok lastingToken, none⟩, asked + 1), true⟩

/-- A provider with this source, which nobody reaches. -/
def recoveringProvider : Provider Nat :=
  ⟨.offline, ⟨0, .ofMillis 0⟩, .standard, recoveringSupply.source⟩

/-- A client with a token that is expired. -/
def staleClient : Grant :=
  ⟨0, Scope.groups, ⟨"stale", some .epoch, Scope.groups⟩⟩

/-- Where the requests go. -/
def sampleUrl : Url := ⟨"https".toList, none, .bare [], none, none⟩

/-- A request that was sent with a token, and which nobody answered. -/
def unanswered (record : List Contact) (token : Token) : Errand :=
  ⟨sampleUrl, record ++ [.send (bearing token.secret sampleUrl)],
    .error (.transport Network.unreachable)⟩

/-- A request that has a token is sent once to nobody, and that is its error. -/
theorem makes_unanswered {s u : Session Nat} (record : List Contact) (token : Token)
    (hbearer : (Grants.bearer recoveringProvider.watched.tokens staleClient).Returns
      (s.beside []) token.secret (u.beside record))
    (hu : u.cancelled = false) (hheader : Http.isHeaderText s!"Bearer {token.secret}" = true) :
    recoveringProvider.Makes staleClient (unanswered record token) s
      (Network.offline.sent (bearing token.secret sampleUrl) u) := by
  let request := bearing token.secret sampleUrl
  have hends : Network.offline.Ends recoveringProvider.policy request u 1
      (.error (.transport Network.unreachable)) (Network.offline.sent request u) :=
    .failure (i := 0) ⟨Nat.le_refl 0, hu, nofun⟩ rfl (.inl rfl)
  have hdeliver : (recoveringProvider.watched.deliver Json.directoryEntry sampleUrl
      token.secret).Fails (u.beside record) (.transport Network.unreachable)
        ((Network.offline.sent request u).beside (record ++ [.send request])) := by
    rw [deliver, if_pos hheader]
    exact fails_bind.2 (.inl (hends.watched record).outcome_send)
  refine ⟨String, Json.directoryEntry, .error (.transport Network.unreachable), rfl, ?_⟩
  rw [fetch_eq_bind]
  exact fails_bind.2 (.inr ⟨token.secret, _, returns_mapError.2 hbearer, hdeliver⟩)

/-- Four requests: the first one has no token, the next two fetch one each, and the last one uses
what the third one fetched. -/
def recoveringErrands : List Errand :=
  [⟨sampleUrl, [.ask Scope.groups (.error (.rejected 503 "later"))],
      .error (.auth (.rejected 503 "later"))⟩,
    unanswered [.ask Scope.groups (.ok briefToken)] briefToken,
    unanswered [.ask Scope.groups (.ok lastingToken)] lastingToken,
    unanswered [] lastingToken]

/-- The session after so many questions, with this token. -/
def recoveringSession (asked : Nat) (token : Token) (trace : List Step) : Session Nat :=
  { Session.start asked .epoch with grants := ⟨1, [{ staleClient with token }]⟩, trace }

/-- The four requests are a history of that provider. -/
theorem exists_history_recovering :
    ∃ s, History recoveringProvider staleClient recoveringErrands s := by
  have hstart : History recoveringProvider staleClient []
      (recoveringSession 0 staleClient.token []) := .start rfl
  have hfirst := hstart.call (c := recoveringErrands[0])
    (t := recoveringSession 1 staleClient.token []) ⟨String, Json.directoryEntry, _, rfl, rfl⟩
  have hsecond := hfirst.call (makes_unanswered [.ask Scope.groups (.ok briefToken)] briefToken
    (u := recoveringSession 2 briefToken []) rfl rfl rfl)
  have hthird := hsecond.call (makes_unanswered [.ask Scope.groups (.ok lastingToken)] lastingToken
    (u := recoveringSession 3 lastingToken [.attempt (bearing "brief" sampleUrl)]) rfl rfl rfl)
  exact ⟨_, hthird.call (makes_unanswered [] lastingToken rfl rfl rfl)⟩

/-- The request after the one that failed asks again, the last one is sent with what the one before
it has fetched, and that is the token that is kept. -/
theorem refreshes_on_demand_recovering :
    recoveringProvider.tokens.IsApart ∧
      ∃ s, History recoveringProvider staleClient recoveringErrands s ∧
        s.grants.find? Scope.groups = some { staleClient with token := lastingToken } ∧
        Contact.asked recoveringErrands[1].contacts = [Scope.groups] ∧
        ∀ request, .send request ∈ recoveringErrands[3].contacts →
          ∃ token : Token, request = bearing token.secret sampleUrl ∧ token = lastingToken := by
  have hapart : recoveringProvider.tokens.IsApart := recoveringSupply.isApart
  obtain ⟨s, hs⟩ := exists_history_recovering
  obtain ⟨hcalls, hkept, -⟩ := hs.refreshes_on_demand hapart
  refine ⟨hapart, s, hs, hkept, ?_, fun request hsent ↦ ?_⟩
  · obtain ⟨u, v, -, -, -, -, hrefused⟩ := hcalls [] recoveringErrands[0] _ rfl
    obtain ⟨-, -, -, hnext⟩ := hrefused Scope.groups (.rejected 503 "later")
      (List.mem_singleton_self _)
    exact hnext _ _ rfl
  · obtain ⟨u, v, -, -, htoken, -⟩ := hcalls (recoveringErrands.take 3) recoveringErrands[3] [] rfl
    obtain ⟨token, hrequest, ⟨hlast, -⟩ | hhead⟩ := htoken request hsent
    · exact ⟨token, hrequest, hlast⟩
    · cases hhead

end Provider

end AuditFeed
