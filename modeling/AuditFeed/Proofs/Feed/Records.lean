import AuditFeed.Connector
import AuditFeed.Proofs.Activity.Json
import AuditFeed.Proofs.Feed.Delivery
import AuditFeed.Proofs.Json.Text

/-!
# Polls over pages with odd records

An activity that cannot be interpreted costs its own events only (`exists_interpretsAll`). A record
that cannot even be read is another matter: it is read together with its page, so it costs all of
the page, however well the other records read, and the poll fails with an error that says to try
again later. Which records are read is `Json.activityShape`, and what a poll makes of either kind of
page is put together from `Json.IsPage.exists_parse_iff` and the stages of a poll.

## The line between the two

Oddness is not what decides. A number in the place of a text is read as its digits, null as what a
field has when it is left out, and a field that nobody asks for is skipped, so `lenientRecord` reads
although almost nothing of it is as documented. The fields that are read strictly are few, and one
odd value in one of them is enough: `oddCustomer` has a number for its customer and nothing else
wrong with it.

The failure leaves no cursor. The same page is asked for again, and as long as it is served with
that record, the poll does not get past it. The error says to try again later, since a text that
cannot be read is told apart from a refusal of the provider.

## Sources by their texts

A source is only looked at where it serves a text. The log of a provider does so with the text of
each successful response (`Provider.serves_activities`), after a grant, a URL and a token were had,
and what the result says of a served text does not depend on how it came.

## Main statements

* `Feed.page_read_iff_records_fit`: a page is read exactly if all of its records fit, and what a
  poll makes of it either way.
-/

namespace AuditFeed

open Call

variable {ω : Type}

/-- Does a source answer a query with what a text denotes as a page, starting in `s`, which leaves
`t`? -/
def ActivitySource.Serves (source : ActivitySource ω) (query : ActivityQuery) (s : Session ω)
    (text : String) (t : Session ω) : Prop :=
  (source query).outcome s = .ok ((Json.activityPage.parse text).mapError .decode, t)

/-- The log of a provider serves the text of a successful response. -/
theorem Provider.serves_activities {p : Provider ω} {query : ActivityQuery} {s u v w t : Session ω}
    {grant : Grant} {url : Url} {request : Http.Request} {response : Http.Response}
    {limit : Option RateLimit} {text : String}
    (hgrant : (Grants.obtain p.tokens Scope.activities).Returns s grant u)
    (hurl : (requestUrl (p.endpoints.activities query.application)).Returns u url v)
    (hrequest : (p.authorized grant (url.addPairs query.pairs)).Returns v request w)
    (hresponse : (p.network.send p.policy request).Returns w response t)
    (hlimit : RateLimit.ofHeaders response.headers t.now = .ok limit)
    (hsuccess : response.isSuccess = true) (htext : response.text = .ok text) :
    ActivitySource.Serves p.activities query s text t := by
  have hread : (readResponse Json.activityPage response : Call ω RequestError ActivityPage).outcome
      t = .ok ((Json.activityPage.parse text).mapError .decode, t) := by
    rw [readResponse, outcome_bind, outcome_get]
    simp only [outcome_bind, outcome_checked, hlimit, htext, hsuccess]
    cases Json.activityPage.parse text <;> rfl
  have hgrant' : ((Grants.obtain p.tokens Scope.activities).mapError RequestError.auth).outcome s =
      .ok (.ok grant, u) := returns_mapError.2 hgrant
  rw [Returns] at hurl hrequest hresponse
  rw [ActivitySource.Serves, activities, outcome_bind, hgrant']
  dsimp only
  rw [listActivities, outcome_bind, hurl]
  dsimp only
  rw [fetch, outcome_bind, hrequest]
  dsimp only
  rw [outcome_bind, hresponse]
  exact hread

namespace Feed

variable {f : Feed ω} {s t u : Session ω}

/-- **One record that does not fit costs the page.** Let a poll have a cursor and a start, and be
served the text of a page, and let the caller not cancel. If all records of the page fit, the page
is read, record by record and with the token of the next page as it is, and the poll returns the
contributions of all of them, in order; where the directory is a table, each contribution depends on
nothing but the record, the table and what was kept at first. If one record does not fit, whatever
it is and whatever the others are, nothing of the page is read: the poll fails, with an error that
says to try again later and no cursor that would get past the page. -/
theorem page_read_iff_records_fit (hd : f.directory.IsSteady) {token : String} {given : Cursor}
    (hdecode : Cursor.decode token = .ok given) {start : Option Instant} {begin : Instant}
    (hbegin : f.begin? start s.now = some begin) {requested : UInt32} {text : String}
    {records : List Json.Value} {next : Option String} (hpage : Json.IsPage text records next)
    (hserved : f.source.Serves (f.query (f.opened given begin requested)) s text u)
    (hu : u.cancelled = false) :
    ((∀ v ∈ records, Json.activityShape.Fits Json.recordRoom v) →
      ∃ page contributions r t, Json.activityPage.parse text = .ok page ∧
        page.nextPageToken = next ∧
        List.Forall₂ (fun v a ↦ Json.activity Json.recordRoom v = some a) records page.items ∧
        (f.poll token requested start).Returns s r t ∧
        f.InterpretsAll u page.items contributions t ∧ r.events = contributions.flatten ∧
        ∀ table, f.directory.HasTable table →
          contributions = page.items.map (f.contribution (Directory.tableAnswer table u))) ∧
    ∀ v ∈ records, ¬ Json.activityShape.Fits Json.recordRoom v →
      ∃ e, Json.activityPage.parse text = .error e ∧
        (f.poll token requested start).Fails s (f.refusal (.decode e)) u ∧
        (f.refusal (.decode e)).isRetryable = true := by
  rw [ActivitySource.Serves] at hserved
  refine ⟨fun hfits ↦ ?_, fun v hv hmisfit ↦ ?_⟩
  · obtain ⟨page, hparse⟩ := hpage.exists_parse_iff.2 hfits
    obtain ⟨hnext, hitems⟩ := hpage.parse_eq_ok_iff.1 hparse
    obtain ⟨contributions, t, hcontributions, hall, -⟩ :=
      exists_interpretsAll hd page.items (f.opened given begin requested) hu
    have hstart : (f.defaultStart start).Returns s begin s := by
      rw [Returns, outcome_defaultStart, hbegin]
    rw [hparse] at hserved
    refine ⟨page, contributions, _, t, hparse, hnext, hitems, returns_poll.2 ⟨given, begin, s, page,
      u, _, _, hdecode, hstart, hserved, hall, rfl⟩, hcontributions, rfl, ?_⟩
    exact fun table htable ↦ hcontributions.eq_contributions htable hu
  -- The page is read as a whole before any activity is interpreted, so none of them is.
  · cases hparse : Json.activityPage.parse text with
    | ok page => exact absurd (hpage.exists_parse_iff.1 ⟨page, hparse⟩ v hv) hmisfit
    | error e =>
      rw [hparse] at hserved
      exact ⟨e, rfl, fails_poll_of_source hdecode hbegin hserved, rfl⟩

/-! ### A page with an odd record -/

/-- The record of an authorization. -/
def authorizationRecord : Json.Value :=
  .object [("id", .object [("time", .text "2024-03-15T10:00:01Z"), ("uniqueQualifier", .text "2")]),
    ("actor", .object [("email", .text "jane@example.com"), ("profileId", .text "1122")]),
    ("events", .arr [.object [("type", .text "auth"), ("name", .text "authorize"),
      ("parameters", .arr [
        .object [("name", .text "client_id"), ("value", .text "mail.example.com")],
        .object [("name", .text "app_name"), ("value", .text "Mail")]])]])]

/-- A record without events that is odd and fits all the same: its time is a number, its qualifier
and its actor are null, and there is a field that nobody asks for. -/
def lenientRecord : Json.Value :=
  .object [("id", .object [("time", .int 1710496800), ("uniqueQualifier", .null)]),
    ("actor", .null), ("other", .arr [.bool true])]

/-- A record without events of which nothing is odd but the customer: it is a number. -/
def oddCustomer : Json.Value :=
  .object [("id", .object [("time", .text "2024-03-15T10:00:00Z"), ("uniqueQualifier", .text "1"),
    ("customerId", .int 7)])]

/-- The text of a page of these records that is the last one. -/
def pageText (records : List Json.Value) : String :=
  (Json.Value.object [("items", .arr records)]).print

/-- The text that is printed for plain records is a page of them, the last one. -/
theorem isPage_pageText {records : List Json.Value} (h : Json.ItemsPlain records) :
    Json.IsPage (pageText records) records none :=
  ⟨_, Json.parse_print ⟨h, trivial⟩, fun _ hm ↦ by rw [List.mem_singleton.1 hm]; rfl, rfl, _, rfl,
    .absent⟩

/-- A feed of the token log with that page. -/
def pageFeed (records : List Json.Value) : Feed Unit where
  kind := .usage
  config := .standard
  source _ := Call.ofExcept ((Json.activityPage.parse (pageText records)).mapError .decode)
  directory _ _ := pure .absent

/-- The event of the authorization. -/
def mailAuthorized : Event :=
  ⟨"2", .ofActivityTime "2024-03-15T10:00:01Z",
    .usage ⟨.app, "mail.example.com", some "Mail"⟩ ⟨"1122", "jane@example.com"⟩⟩

/-- The odd record costs the other one nothing, since it fits. -/
theorem page_read_iff_records_fit_lenient :
    ∃ r t, ((pageFeed [lenientRecord, authorizationRecord]).poll "" 0 (some .epoch)).Returns
      (.start () .epoch) r t ∧ r.events = [mailAuthorized] := by
  let f := pageFeed [lenientRecord, authorizationRecord]
  have hplain : Json.ItemsPlain [lenientRecord, authorizationRecord] := by
    simp [lenientRecord, authorizationRecord, Json.Value.object, Json.Value.text, Json.ItemsPlain,
      Json.MembersPlain, Json.Value.IsPlain, Json.isPlain_int]
  have hfits : ∀ v ∈ [lenientRecord, authorizationRecord],
      Json.activityShape.Fits Json.recordRoom v := by
    simp only [← Json.takes_activity Json.recordRoom _]
    decide +kernel
  have hsteady : f.directory.IsSteady := fun _ _ s hs ↦ ⟨_, s, rfl, hs⟩
  have hbegin : f.begin? (some .epoch) (Session.start () .epoch).now = some .epoch := rfl
  have hserved : f.source.Serves (f.query (f.opened .initial .epoch 0)) (.start () .epoch)
      (pageText [lenientRecord, authorizationRecord]) (.start () .epoch) := rfl
  obtain ⟨hread, -⟩ := page_read_iff_records_fit hsteady Cursor.decode_empty hbegin
    (isPage_pageText hplain) hserved rfl
  obtain ⟨page, contributions, r, t, -, -, hitems, hpoll, hall, hevents, -⟩ := hread hfits
  obtain ⟨rfl, rfl⟩ := hall.eq_of_usage rfl
  have hdelivered : ([lenientRecord, authorizationRecord].mapM
      (Json.activity Json.recordRoom)).map (fun items ↦
        (items.map (·.usageEventsOrNone)).flatten) = some [mailAuthorized] := by
    decide +kernel
  rw [Json.mapM_eq_some_iff.2 hitems, Option.map_some, ← hevents] at hdelivered
  exact ⟨r, _, hpoll, Option.some.inj hdelivered⟩

/-- **One odd customer costs the event of another record**: the page is not read at all, although
its records are objects and the other one is read by itself. -/
theorem page_refused_oddCustomer :
    Json.IsPage (pageText [oddCustomer, authorizationRecord]) [oddCustomer, authorizationRecord]
      none ∧
    (∀ v ∈ [oddCustomer, authorizationRecord], ∃ ms, v = .obj ms) ∧
    (Json.activity Json.recordRoom authorizationRecord).map (·.usageEventsOrNone) =
      some [mailAuthorized] ∧
    (∀ page, Json.activityPage.parse (pageText [oddCustomer, authorizationRecord]) ≠ .ok page) ∧
    ∃ e, ((pageFeed [oddCustomer, authorizationRecord]).poll "" 0 (some .epoch)).Fails
      (.start () .epoch) e (.start () .epoch) := by
  have hplain : Json.ItemsPlain [oddCustomer, authorizationRecord] := by
    simp [oddCustomer, authorizationRecord, Json.Value.object, Json.Value.text, Json.ItemsPlain,
      Json.MembersPlain, Json.Value.IsPlain, Json.isPlain_int]
  have hpage := isPage_pageText hplain
  have hmisfit : ¬ Json.activityShape.Fits Json.recordRoom oddCustomer := by
    rw [← Json.takes_activity]
    decide +kernel
  have hrefused : ∀ page,
      Json.activityPage.parse (pageText [oddCustomer, authorizationRecord]) ≠ .ok page :=
    fun page hparse ↦ hmisfit
      (hpage.exists_parse_iff.1 ⟨page, hparse⟩ oddCustomer List.mem_cons_self)
  refine ⟨hpage, ?_, by decide +kernel, hrefused, ?_⟩
  · simp [oddCustomer, authorizationRecord, Json.Value.object]
  · cases hparse : Json.activityPage.parse (pageText [oddCustomer, authorizationRecord]) with
    | ok page => exact (hrefused page hparse).elim
    | error e =>
      refine ⟨_, fails_poll_of_source (e := .decode e) Cursor.decode_empty rfl ?_⟩
      show Except.ok (((Json.activityPage.parse
        (pageText [oddCustomer, authorizationRecord])).mapError RequestError.decode), _) = _
      rw [hparse]
      rfl

end Feed

end AuditFeed
