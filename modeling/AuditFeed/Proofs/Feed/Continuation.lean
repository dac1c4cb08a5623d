import AuditFeed.Connector
import AuditFeed.Proofs.Feed.Windows
import AuditFeed.Proofs.Fetch
import AuditFeed.Proofs.Url

/-!
# What is asked from one poll to the next

A poll asks for one page, with one query. The query of a window that is opened has a start, and that
of a window that is continued the continuation token of the page before. Three things have to come
through the cursor's token for that: the continuation token, which may hold any characters, whether
there is one, and the size of the pages.

`Visit.given_eq_next` brings the whole cursor through, so what is left is what one poll writes into
the cursor (`Visit.pageToken_next`, `Visit.pageSize_next`) and what the next one reads of it
(`Feed.query_of_continued`, `Feed.query_of_opened`). The size is that of the query that opened the
window, by an induction back along the run (`maxResults_opening`).

## One query for each poll

That a poll asks once is not seen from its result. `Feed.Logs` therefore supposes a log on the other
side, to which the source adds each query and the directory nothing, and `log_poll` says that a poll
whose token is accepted makes it longer by one, however it ends. Where a log is kept and what else
the other side does is left open.

## On the wire

A query is sent as the pairs at the end of a URL. They are read back as they were, behind pairs that
the address of the log brings itself. It brings none unless the base that was configured has a
question mark, and `not_pairs_eq_proxyFeed` is a checked configuration that has one: so that the
pairs of a request are those of its query is a statement about the base, and not one about the
query.

What is sent for a query besides its own request are requests for tokens. They are told apart by
their method, which is why `Provider.MaySend` says nothing of where they go.

## Main statements

* `Feed.continuation_protocol`: what is asked after each page, once for each poll, and how it is
  sent.
-/

namespace AuditFeed

open Call

variable {ω : Type}

/-! ### Queries -/

/-- Does a query ask for a start or for a page, and not for both, and for 1 to 1000 records? -/
structure ActivityQuery.IsProper (q : ActivityQuery) : Prop where
  /-- There is a start exactly if there is no page to go on with. -/
  start_iff : q.startTime.isSome = true ↔ q.pageToken = none
  /-- The provider serves no empty pages and none of more than 1000 records. -/
  size : 1 ≤ q.maxResults ∧ q.maxResults ≤ maxPageSize

namespace Feed

variable {f : Feed ω}

/-- A size is cut to what the provider serves, and left alone if it is that. -/
theorem clamp_spec (size : UInt32) :
    1 ≤ max 1 (min size maxPageSize) ∧ max 1 (min size maxPageSize) ≤ maxPageSize ∧
      (1 ≤ size → size ≤ maxPageSize → max 1 (min size maxPageSize) = size) := by
  have hmax (a b : UInt32) : max a b = if a ≤ b then b else a := rfl
  have hmin (a b : UInt32) : min a b = if a ≤ b then a else b := rfl
  have hsize : maxPageSize = 1000 := rfl
  rw [hmax, hmin, hsize]
  grind

/-- A window that is continued keeps a size that the provider serves, whatever is asked for. -/
theorem pageSize_of_continued (f : Feed ω) {c : Cursor} (hmid : c.isMidWindow = true)
    (hsize : 1 ≤ c.pageSize ∧ c.pageSize ≤ maxPageSize) (requested : UInt32) :
    f.pageSize c requested = c.pageSize := by
  have hpos : 0 < c.pageSize := by
    have h := hsize.1
    grind
  rw [pageSize, hmid, Bool.true_and, if_pos (decide_eq_true hpos)]
  exact (clamp_spec c.pageSize).2.2 hsize.1 hsize.2

/-- **Every query is proper**, whatever cursor, start and size a poll is given. -/
theorem isProper_query (f : Feed ω) (given : Cursor) (begin : Instant) (requested : UInt32) :
    (f.query (f.opened given begin requested)).IsProper := by
  refine ⟨?_, (clamp_spec _).1, (clamp_spec _).2.1⟩
  rw [query]
  dsimp only
  split
  · simp
  · simp [opened, Cursor.openWindow]

namespace Visit

/-- The query of a poll. -/
def query (v : Visit f) : ActivityQuery :=
  f.query (f.opened v.given v.begin v.requested)

/-- The cursor that a poll leaves, by the latest time of its page. -/
theorem next_eq (v : Visit f) :
    v.next = ({ f.opened v.given v.begin v.requested with
      latestSeen := some (v.latest.latest v.times) } : Cursor).advance v.page.nextPageToken := by
  rw [next, Cursor.observeAll_of_latest (l := v.latest) rfl]

/-- The continuation token of the page is kept as it is, and none as the empty one. -/
theorem pageToken_next (v : Visit f) : v.next.pageToken = v.page.nextPageToken.getD "" := by
  rw [next_eq]
  rcases hpage : v.page.nextPageToken with _ | token
  · rfl
  · by_cases hempty : token = ""
    · rw [hempty]
      rfl
    · have hfilter : (some token).filter (!·.isEmpty) = some token := by
        rw [Option.filter_some, if_pos]
        simpa using hempty
      rw [Cursor.advance_of_token hfilter]
      rfl

/-- The size of its query is kept for the next one. -/
theorem pageSize_next (v : Visit f) : v.next.pageSize = v.query.maxResults := by
  rw [next_eq, Cursor.advance]
  split <;> rfl

/-- The window goes on exactly if the page names another one. -/
theorem isMidWindow_next_iff (v : Visit f) :
    v.next.isMidWindow = true ↔ ∃ token, v.page.nextPageToken = some token ∧ token ≠ "" := by
  rw [Cursor.isMidWindow, pageToken_next]
  cases v.page.nextPageToken <;> simp

end Visit

/-! ### Along a run -/

/-- **What is asked after a page that names another one**: for that page and no start, with the size
of the query before. -/
theorem query_of_continued {w : Visit f} {token : String}
    (hpage : w.page.nextPageToken = some token) (hne : token ≠ "") (begin : Instant)
    (requested : UInt32) :
    let q := f.query (f.opened w.next begin requested)
    q.pageToken = some token ∧ q.startTime = none ∧ q.maxResults = w.query.maxResults := by
  have hmid : w.next.isMidWindow = true := w.isMidWindow_next_iff.2 ⟨token, hpage, hne⟩
  have hopened : (f.opened w.next begin requested).isMidWindow = true := hmid
  have hsize := (f.isProper_query w.given w.begin w.requested).size
  intro q
  refine ⟨?_, ?_, ?_⟩
  · show (if (f.opened w.next begin requested).isMidWindow then some w.next.pageToken else none) = _
    rw [if_pos hopened, w.pageToken_next, hpage]
    rfl
  · exact if_pos hopened
  · rw [← w.pageSize_next]
    refine f.pageSize_of_continued (c := w.next.openWindow begin) hmid ?_ requested
    show 1 ≤ w.next.pageSize ∧ w.next.pageSize ≤ maxPageSize
    rw [w.pageSize_next]
    exact hsize

/-- **What is asked after the last page of a window**: for the start that it left, and no page. -/
theorem query_of_opened {w : Visit f} (hlast : w.next.isMidWindow = false) (begin : Instant)
    (requested : UInt32) :
    let q := f.query (f.opened w.next begin requested)
    q.pageToken = none ∧ q.startTime = w.next.startAt := by
  have hopened : ¬ (f.opened w.next begin requested).isMidWindow = true := by
    rw [show (f.opened w.next begin requested).isMidWindow = false from hlast]
    exact Bool.false_ne_true
  obtain ⟨start, hstart, -⟩ := w.exists_startAt_next
  refine ⟨if_neg hopened, ?_⟩
  show (if (f.opened w.next begin requested).isMidWindow then none
    else some (w.next.startAt.getD begin)) = _
  rw [if_neg hopened, hstart]
  rfl

/-- All queries of a window have the size of the one that opened it. -/
theorem maxResults_opening {v : Visit f} {past : List (Visit f)} (hrun : IsRun (v :: past)) :
    v.query.maxResults = (opening v past).query.maxResults := by
  induction past generalizing v with
  | nil => rfl
  | cons w past ih =>
    obtain ⟨htoken, hpast⟩ := List.isChain_cons_cons.1 hrun
    rw [opening]
    split
    -- The poll continues a window, so its size is the one of the poll before.
    · rename_i hmid
      have hgiven := Visit.given_eq_next htoken
      rw [hgiven] at hmid
      obtain ⟨token, hpage, hne⟩ := w.isMidWindow_next_iff.1 hmid
      rw [← ih hpast, Visit.query, hgiven]
      exact (query_of_continued hpage hne v.begin v.requested).2.2
    -- The poll opens its window itself.
    · rfl

/-! ### One query for each poll -/

/-- Does the other side keep a log of the queries that the source was asked, in order, to which the
directory adds nothing? -/
structure Logs (f : Feed ω) (log : ω → List ActivityQuery) : Prop where
  /-- Asking for a page adds its query. -/
  asked : ∀ query s r t, (f.source query).outcome s = .ok (r, t) →
    log t.peer = log s.peer ++ [query]
  /-- Asking for an email adds none. -/
  resolved : ∀ type email s r t, (f.directory type email).outcome s = .ok (r, t) →
    log t.peer = log s.peer

/-- **A poll asks one query**, however it ends, if its token is accepted. -/
theorem log_poll {log : ω → List ActivityQuery} (hlog : f.Logs log) {token : String}
    {given : Cursor} (hdecode : Cursor.decode token = .ok given) {requested : UInt32}
    {start : Option Instant} {s t : Session ω} {r : Except SyncError PollResult}
    (h : (f.poll token requested start).outcome s = .ok (r, t)) :
    ∃ begin, f.begin? start s.now = some begin ∧
      log t.peer = log s.peer ++ [f.query (f.opened given begin requested)] := by
  cases hbegin : f.begin? start s.now with
  | none =>
    rw [outcome_poll_of_begin_none hdecode hbegin] at h
    cases h
  | some begin =>
    refine ⟨begin, rfl, ?_⟩
    rw [outcome_poll_of_begin hdecode hbegin, outcome_bind, outcome_mapError] at h
    rcases hpage : (f.source (f.query (f.opened given begin requested))).outcome s with
      o | ⟨e | page, u⟩
    · rw [hpage] at h
      cases h
    · rw [hpage] at h
      cases h
      exact hlog.asked _ s _ _ hpage
    · rw [hpage] at h
      rw [← hlog.asked _ s _ _ hpage]
      change Call.outcome (f.interpretAll _ _ >>= _) u = _ at h
      rw [outcome_bind] at h
      rcases hall : (f.interpretAll (f.opened given begin requested) page.items).outcome u with
        o | ⟨e | seen, v⟩
      · rw [hall] at h
        cases h
      · rw [hall] at h
        cases h
        exact peer_interpretAll hlog.resolved hall
      · rw [hall] at h
        cases h
        exact peer_interpretAll hlog.resolved hall

end Feed

/-! ### On the wire -/

namespace Provider

variable {p : Provider ω} {tokens : TokenSupply ω} {query : ActivityQuery}
  {s t : Session ω}

/-- Is this the request for a query? It goes to the address of the log, with the pairs of the query
behind those of the address. -/
def Lists (p : Provider ω) (query : ActivityQuery) (request : Http.Request) : Prop :=
  request.method = "GET" ∧ ∃ url, Url.parse (p.endpoints.activities query.application) = .ok url ∧
    request.url = url.addPairs query.pairs

/-- What may be sent for a query: its request, and requests for tokens. -/
def MaySend (p : Provider ω) (query : ActivityQuery) (request : Http.Request) : Prop :=
  request.method = "POST" ∨ p.Lists query request

/-- Tokens are had with requests for tokens and nothing else. -/
theorem takes_tokens (htokens : p.tokens = tokens.source) (scope : String) :
    (p.tokens scope).Takes (Session.Move (p.MaySend query) fun _ _ ↦ True) := by
  rw [htokens]
  exact tokens.takes_source (fun request hpost ↦ .inl hpost) scope

/-- A page that is had was asked for. -/
theorem exists_attempt_of_returns (htokens : p.tokens = tokens.source) {page : ActivityPage}
    (h : (p.activities query).Returns s page t) :
    ∃ work, Session.Notes (p.MaySend query) s t work ∧
      ∃ request, .attempt request ∈ work ∧ p.Lists query request := by
  have hsource : ∀ scope, (p.tokens scope).Takes
      (Session.Move (p.MaySend query) fun _ _ ↦ True) := takes_tokens htokens
  rw [activities] at h
  obtain ⟨grant, u, hgrant, h⟩ := returns_bind.1 h
  rw [listActivities] at h
  obtain ⟨url, v, hurl, h⟩ := returns_bind.1 h
  have hlists : ∀ request : Http.Request, request.Gets (url.addPairs query.pairs) →
      p.Lists query request := fun request hgets ↦
    ⟨hgets.1, url, parse_of_returns_requestUrl hurl, hgets.2⟩
  obtain ⟨before, hbefore⟩ := Session.exists_notes_of_moves
    ((((Grants.takes_obtain hsource _).mapError _) s _ u hgrant).trans
      (takes_requestUrl _ u _ v hurl))
  obtain ⟨work, hwork, hheard⟩ := exists_notes_fetch htokens h
  obtain ⟨request, hattempt, hgets⟩ := hheard trivial
  exact ⟨_, hbefore.trans (hwork.mono fun other hother ↦ hother.imp_right (hlists other)),
    request, List.mem_append_right _ hattempt, hlists request hgets⟩

/-- However asking for a page ends, nothing else is sent. -/
theorem exists_notes_activities (htokens : p.tokens = tokens.source)
    {r : Except RequestError ActivityPage} (h : (p.activities query).outcome s = .ok (r, t)) :
    ∃ work, Session.Notes (p.MaySend query) s t work ∧
      ∀ page, r = .ok page → ∃ request, .attempt request ∈ work ∧ p.Lists query request := by
  cases r with
  | ok page =>
    obtain ⟨work, hwork, hattempt⟩ := exists_attempt_of_returns htokens h
    exact ⟨work, hwork, fun _ _ ↦ hattempt⟩
  | error e =>
    obtain ⟨work, hwork⟩ := Session.exists_notes_of_moves (takes_activities (takes_tokens htokens)
      query (fun request url hmethod hparse hurl ↦ .inr ⟨hmethod, url, hparse, hurl⟩) s _ t h)
    exact ⟨work, hwork, nofun⟩

/-- The pairs of a query are read back from its request. -/
theorem Lists.pairs_eq {request : Http.Request} (h : p.Lists query request) :
    ∃ url, Url.parse (p.endpoints.activities query.application) = .ok url ∧
      request.url.pairs = url.pairs ++ query.pairs ∧
      ('?' ∉ p.endpoints.base.toList → request.url.pairs = query.pairs) := by
  obtain ⟨-, url, hparse, hurl⟩ := h
  have hpairs : request.url.pairs = url.pairs ++ query.pairs := by
    rw [hurl, Url.pairs_addPairs]
  refine ⟨url, hparse, hpairs, fun hbase ↦ ?_⟩
  rw [hpairs, Endpoints.pairs_activities hbase hparse]
  rfl

end Provider

namespace Feed

variable {f : Feed ω}

/-- **The continuation protocol.** Let successive polls of a feed be successful, each with the token
that the one before returned, and let the last token be accepted. If the last page named another
one, whatever characters its token has, the next query is for exactly that page, without a start and
with the size of the query that opened the window, whatever size is asked for. Otherwise the next
query has a start and no page.

Every query of a feed has a start or a page and not both, and asks for 1 to 1000 records. A poll
asks exactly one query, however it ends.

Where the pages come from a provider, nothing is sent for a query but requests for tokens and its
own request, which is sent at least once if the page is had. The pairs that are read from the URL of
that request are those of the query, behind those that the address of the log brings itself; it
brings none unless the base of the address has a question mark. -/
theorem continuation_protocol {w : Visit f} {past : List (Visit f)} (hrun : IsRun (w :: past)) :
    (∀ given, Cursor.decode w.result.cursor = .ok given → ∀ begin requested,
      let q := f.query (f.opened given begin requested)
      (∀ token, w.page.nextPageToken = some token → token ≠ "" →
        q.pageToken = some token ∧ q.startTime = none ∧
          q.maxResults = (opening w past).query.maxResults) ∧
      ((∀ token, w.page.nextPageToken = some token → token = "") →
        q.pageToken = none ∧ ∃ time, q.startTime = some time)) ∧
    (∀ given begin requested, (f.query (f.opened given begin requested)).IsProper) ∧
    (∀ log, f.Logs log → ∀ token given requested start s r t, Cursor.decode token = .ok given →
      (f.poll token requested start).outcome s = .ok (r, t) →
      ∃ begin, f.begin? start s.now = some begin ∧
        log t.peer = log s.peer ++ [f.query (f.opened given begin requested)]) ∧
    ∀ (p : Provider ω) (tokens : TokenSupply ω), p.tokens = tokens.source →
      f.source = p.activities → ∀ query s r t, (f.source query).outcome s = .ok (r, t) →
        (∃ work, Session.Notes (p.MaySend query) s t work ∧
          ∀ page, r = .ok page → ∃ request, .attempt request ∈ work ∧ p.Lists query request) ∧
        ∀ request, p.Lists query request →
          ∃ url, Url.parse (p.endpoints.activities query.application) = .ok url ∧
            request.url.pairs = url.pairs ++ query.pairs ∧
            ('?' ∉ p.endpoints.base.toList → request.url.pairs = query.pairs) := by
  refine ⟨fun given hdecode begin requested ↦ ?_, isProper_query f,
    fun log hlog token given requested start s r t hdecode h ↦ log_poll hlog hdecode h,
    fun p tokens htokens hsource query s r t h ↦ ?_⟩
  · obtain rfl : given = w.next := Visit.next_eq_of_decode hdecode
    refine ⟨fun token hpage hne ↦ ?_, fun hlast ↦ ?_⟩
    · obtain ⟨htoken, hstart, hsize⟩ := query_of_continued hpage hne begin requested
      exact ⟨htoken, hstart, hsize.trans (maxResults_opening hrun)⟩
    · have hclosed : w.next.isMidWindow = false := by
        rw [← Bool.not_eq_true, w.isMidWindow_next_iff]
        rintro ⟨token, hpage, hne⟩
        exact hne (hlast token hpage)
      obtain ⟨htoken, hstart⟩ := query_of_opened hclosed begin requested
      obtain ⟨time, htime, -⟩ := w.exists_startAt_next
      exact ⟨htoken, time, hstart.trans htime⟩
  · rw [hsource] at h
    exact ⟨Provider.exists_notes_activities htokens h, fun request hlists ↦ hlists.pairs_eq⟩

/-! ### A window that is opened with a small size -/

/-- A feed with windows of two pages that logs its queries. -/
def loggedPages : Feed (List ActivityQuery) where
  kind := .usage
  config := .standard
  source query := do
    modify fun s ↦ { s with peer := s.peer ++ [query] }
    return pageOfTwo query.pageToken.isSome
  directory _ _ := pure .absent

/-- The feed logs its queries. -/
theorem logs_loggedPages : loggedPages.Logs fun peer ↦ peer := by
  refine ⟨fun query s r t h ↦ ?_, fun type email s r t h ↦ ?_⟩
  · cases h
    rfl
  · cases h
    rfl

/-- Its activities are skipped, and their times noted. -/
theorem interpretAll_loggedPages (c : Cursor) (log : List ActivityQuery) :
    (loggedPages.interpretAll c (pageOfTwo false).items).Returns (.start log .epoch)
      ([], c.observeAll ((pageOfTwo false).items.map (·.occurredAt))) (.start log .epoch) := by
  rfl

/-- The first poll of that feed, which asks for seven records. -/
def firstLogged : Visit loggedPages :=
  let opened := loggedPages.opened .initial .epoch 7
  let seen := opened.observeAll ((pageOfTwo false).items.map (·.occurredAt))
  let s := Session.start [] .epoch
  let t := Session.start [loggedPages.query opened] .epoch
  { token := "", requested := 7, start := some .epoch, before := s
    given := .initial, decodes := Cursor.decode_empty
    begin := .epoch, asked := s, begins := returns_pure.2 ⟨rfl, rfl⟩
    page := pageOfTwo false, fetched := t, fetches := rfl
    result := ⟨[], (seen.advance (some "second")).encode,
      (seen.advance (some "second")).isMidWindow⟩
    after := t
    returns := returns_poll.2 ⟨.initial, .epoch, s, pageOfTwo false, t, [], seen,
      Cursor.decode_empty, returns_pure.2 ⟨rfl, rfl⟩, rfl, interpretAll_loggedPages opened _, rfl⟩ }

/-- The second poll asks for the second page, seven records at a time, though it is made with
another size. -/
theorem continuation_protocol_firstLogged :
    ∃ r t, (loggedPages.poll firstLogged.result.cursor 500 (some .epoch)).outcome
        firstLogged.after = .ok (r, t) ∧
      ∃ q, t.peer = firstLogged.after.peer ++ [q] ∧ q.pageToken = some "second" ∧
        q.startTime = none ∧ q.maxResults = 7 := by
  have hplain : firstLogged.next.HasPlainTimes := by decide +kernel
  have hdecode : Cursor.decode firstLogged.result.cursor = .ok firstLogged.next := by
    rw [firstLogged.result_eq.1, Cursor.decode_encode, if_pos hplain]
  obtain ⟨hcontinued, -, hone, -⟩ := continuation_protocol (List.isChain_singleton firstLogged)
  obtain ⟨r, t, h⟩ : ∃ r t, (loggedPages.poll firstLogged.result.cursor 500
      (some .epoch)).outcome firstLogged.after = .ok (r, t) := by
    rw [outcome_poll_of_begin hdecode rfl]
    exact ⟨_, _, rfl⟩
  obtain ⟨begin, hbegin, hlog⟩ := hone _ logs_loggedPages _ _ 500 (some .epoch) _ r t hdecode h
  obtain ⟨htoken, hstart, hsize⟩ :=
    (hcontinued _ hdecode begin 500).1 "second" rfl (by decide)
  exact ⟨r, t, h, _, hlog, htoken, hstart, hsize.trans (by decide +kernel)⟩

/-! ### An address with pairs of its own -/

/-- A configuration whose requests go to a proxy, which is told the path in its own query. -/
def proxyConfig : ConnectorConfig :=
  { ConnectorConfig.basic "admin@example.com" (.inline "\x7b\x7d") with
    customerId := some "C0123abcd", endpoints := .ofBase "http://[::1]:8080/fwd?target=" }

/-- A feed of a connector with that configuration and any token, in a network that reaches nobody.
-/
def proxyFeed : Feed Unit :=
  let tokens : TokenSupply Unit :=
    .replies ⟨fun scope peer ↦ (⟨.ok ⟨"secret", none, scope⟩, none⟩, peer), true⟩
  (Connector.withTokens proxyConfig tokens.source .offline .standard).feed .admin

/-- **The pairs of a request need not be those of its query alone**: a checked configuration may
bring pairs of its own. -/
theorem not_pairs_eq_proxyFeed :
    proxyConfig.validate = .ok () ∧
      ∃ r t request, (proxyFeed.poll "" 0 (some .epoch)).outcome (.start () .epoch) = .ok (r, t) ∧
        t.requests = [request] ∧
        request.url.pairs ≠ (proxyFeed.query (proxyFeed.opened .initial .epoch 0)).pairs := by
  have hfault : proxyConfig.fault = none := by decide +kernel
  have hsent : ((proxyFeed.poll "" 0 (some .epoch)).outcome (.start () .epoch)).toOption.map
      (fun x ↦ x.2.requests.map (·.url.pairs)) =
        some [("target", "/admin/reports/v1/activity/users/all/applications/admin") ::
          (proxyFeed.query (proxyFeed.opened .initial .epoch 0)).pairs] := by decide +kernel
  refine ⟨by rw [ConnectorConfig.validate, hfault], ?_⟩
  rcases h : (proxyFeed.poll "" 0 (some .epoch)).outcome (.start () .epoch) with o | ⟨r, t⟩
  · rw [h] at hsent
    cases hsent
  · rw [h] at hsent
    obtain ⟨request, hrequests, hpairs⟩ := List.map_eq_singleton_iff.1 (Option.some.inj hsent)
    refine ⟨r, t, request, rfl, hrequests, ?_⟩
    rw [hpairs]
    exact List.cons_ne_self _ _

end Feed

end AuditFeed
