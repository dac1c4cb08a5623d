import AuditFeed.Proofs.Feed.Adjacent
import AuditFeed.Proofs.Feed.Silence
import AuditFeed.Proofs.Instant.Before
import Mathlib.Data.Option.Basic

/-!
# How far a feed looks back

A feed that has not been read starts a lag before now. The lag that is configured is the one that
counts, unless it is longer than any span can be: then it is an hour, as for a feed that is told
nothing (`Connector.lag_feed_eq`). Where the lag that counts leads back to a time, a poll reads the
page after that very time, to the nanosecond.

## Two bounds

They are met one after the other and have nothing to do with each other:

* A lag of more than `2 ^ 63 - 1` milliseconds is no span. The check of a configuration lets it
  pass, and `starts_an_hour_before_now_hugeLag` is a feed that starts an hour before now with it. So
  the lag that counts is told by a case distinction, which is a hypothesis of what follows and not a
  definition.
* A lag that is a span may lead back beyond all times. The poll has no outcome then, and the
  hypothesis `htime` is exactly that this is not so.

## Where the lag does not show

The start is found before it is known to be needed. A cursor that has one makes no use of it
(`Feed.opened_of_startAt`), so there the lag does not show at all, and nor does a start that the
caller asks for. That a poll reads on from its cursor is therefore stated as an equation of outcomes
with `Feed.read`, in which no start occurs but the one of the cursor.

## Main statements

* `Connector.starts_lag_before_now`: what a poll reads without a cursor and with one, and what is
  sent for it.
-/

namespace AuditFeed

open Call

variable {ω : Type}

/-! ### What a poll reads -/

namespace Feed

variable {f : Feed ω} {given : Cursor} {s : Session ω}

/-- Reads the page that a cursor asks for. -/
def read (f : Feed ω) (c : Cursor) : Call ω SyncError PollResult := do
  let page ← (f.source (f.query c)).mapError f.refusal
  let (events, seen) ← f.interpretAll c page.items
  return ⟨events, (seen.advance page.nextPageToken).encode,
    (seen.advance page.nextPageToken).isMidWindow⟩

/-- With a cursor and a time to start from, a poll reads a page and does nothing else. -/
theorem outcome_poll_eq_read {token : String} {start : Option Instant} {begin : Instant}
    (hdecode : Cursor.decode token = .ok given) (hbegin : f.begin? start s.now = some begin)
    (requested : UInt32) :
    (f.poll token requested start).outcome s =
      (f.read (f.opened given begin requested)).outcome s :=
  outcome_poll_of_begin hdecode hbegin requested

/-- A cursor with a start is opened there, wherever a feed would start without one. -/
theorem opened_of_startAt {start : Instant} (h : given.startAt = some start) (begin : Instant)
    (requested : UInt32) : f.opened given begin requested = f.opened given start requested := by
  have hopen : given.openWindow begin = given.openWindow start := by
    rw [Cursor.openWindow, Cursor.openWindow, h]
    rfl
  rw [opened, opened, hopen]

/-- A window that is opened is asked for from where it was opened. -/
theorem startTime_query_opened (hmid : given.isMidWindow = false) (begin : Instant)
    (requested : UInt32) :
    (f.query (f.opened given begin requested)).startTime = some (given.startAt.getD begin) :=
  if_neg (Bool.eq_false_iff.1 hmid)

end Feed

/-! ### The lag that counts -/

namespace ConnectorConfig

/-- A configuration that passes the check has a lag. -/
theorem lag_pos_of_validate {c : ConnectorConfig} (h : c.validate = .ok ()) : 0 < c.lag.nanos := by
  have hfault : c.fault = none := by
    rw [validate] at h
    cases hfault : c.fault with
    | none => rfl
    | some message =>
      rw [hfault] at h
      cases h
  simp only [fault, Option.orElse_eq_none] at hfault
  obtain ⟨-, -, -, -, hlag, -⟩ := hfault
  refine Nat.pos_of_ne_zero fun hzero ↦ ?_
  rw [Duration.isZero, hzero] at hlag
  cases hlag

end ConnectorConfig

namespace Connector

variable {c : Connector ω} {lag : Int}

/-- The lag that counts is the configured one, or an hour where that one is longer than spans go. -/
theorem lag_feed_eq (kind : FeedKind)
    (hlag : c.config.lag.nanos ≤ longestLag ∧ lag = c.config.lag.nanos ∨
      longestLag < c.config.lag.nanos ∧ lag = 3600000000000) :
    (c.feed kind).config.lag = lag := by
  show lagSpan c.config.lag = lag
  rw [lagSpan]
  rcases hlag with ⟨hle, rfl⟩ | ⟨hlt, rfl⟩
  · exact if_pos hle
  · exact if_neg (Nat.not_le.2 hlt)

/-- **A poll starts the lag before now.** Let the configuration be valid, and let the lag that
counts be the configured one, or an hour if that one is longer than `2 ^ 63 - 1` milliseconds. Where
now less this lag is not before all times:

* a poll without a start and with an empty token reads the page after exactly that time, and does
  nothing else; every request for that page has it among its pairs, and no page token;
* a poll without a start whose cursor has one reads on from there: the lag does not show, and nor
  does any start that it is given. -/
theorem starts_lag_before_now (hvalid : c.config.validate = .ok ())
    (hlag : c.config.lag.nanos ≤ longestLag ∧ lag = c.config.lag.nanos ∨
      longestLag < c.config.lag.nanos ∧ lag = 3600000000000)
    {s : Session ω} (htime : Instant.firstSecond * 1000000000 ≤ s.now.count - lag)
    (kind : FeedKind) (requested : UInt32) :
    let feed := c.feed kind
    (∃ begin : Instant, begin.count = s.now.count - lag ∧ begin < s.now ∧
        (s.now.nanos < Instant.nanosPerSecond → begin.nanos < Instant.nanosPerSecond) ∧
        let opened := feed.opened .initial begin requested
        (feed.poll "" requested none).outcome s = (feed.read opened).outcome s ∧
          (feed.query opened).startTime = some begin ∧ (feed.query opened).pageToken = none ∧
          ∀ request, c.provider.Lists (feed.query opened) request →
            ("startTime", begin.millisText) ∈ request.url.pairs) ∧
      ∀ token given start, Cursor.decode token = .ok given → given.startAt = some start →
        let opened := feed.opened given start requested
        (feed.poll token requested none).outcome s = (feed.read opened).outcome s ∧
          (∀ other, (feed.poll token requested (some other)).outcome s =
            (feed.read opened).outcome s) ∧
          (given.isMidWindow = false → (feed.query opened).startTime = some start) := by
  intro feed
  have hfeed : feed.config.lag = lag := lag_feed_eq kind hlag
  -- A checked lag is not zero, so the start is before now.
  have hpos : 0 < lag := by
    have hconfigured := ConnectorConfig.lag_pos_of_validate hvalid
    omega
  obtain ⟨begin, hsub⟩ := (Instant.exists_sub?_iff (Int.le_of_lt hpos)).2 htime
  obtain ⟨hcount, hplain, hlt⟩ := Instant.sub?_spec (Int.le_of_lt hpos) hsub
  have hbegin : feed.begin? none s.now = some begin := by
    rw [Feed.begin?, Option.none_or, hfeed, hsub]
  refine ⟨⟨begin, hcount, hlt hpos, hplain, ?_⟩, fun token given start hdecode hstart ↦ ?_⟩
  · intro opened
    have hquery : (feed.query opened).startTime = some begin :=
      Feed.startTime_query_opened rfl begin requested
    refine ⟨Feed.outcome_poll_eq_read Cursor.decode_empty hbegin requested, hquery, rfl, ?_⟩
    intro request hlists
    obtain ⟨url, -, hpairs, -⟩ := hlists.pairs_eq
    rw [hpairs]
    exact List.mem_append_right _ (ActivityQuery.startTime_mem_pairs_iff.2 ⟨begin, hquery, rfl⟩)
  · intro opened
    refine ⟨?_, fun other ↦ ?_, fun hmid ↦ ?_⟩
    · rw [Feed.outcome_poll_eq_read hdecode hbegin, Feed.opened_of_startAt hstart begin]
    · have hother : feed.begin? (some other) s.now = some other := rfl
      rw [Feed.outcome_poll_eq_read hdecode hother, Feed.opened_of_startAt hstart other]
    · rw [Feed.startTime_query_opened hmid, hstart]
      rfl

/-- A configuration that looks back an hour and a half. -/
def shortLag : ConnectorConfig :=
  { ConnectorConfig.basic "admin@example.com" (.inline "\x7b\x7d") with
    customerId := some "C0123abcd", lag := .ofSeconds 5400 }

/-- A quarter of a second past ten, on the fifteenth of March 2024. -/
def quarterPast : Instant :=
  ⟨1710496800, 250000000, by decide, by decide, by decide⟩

/-- With that configuration a poll at that time starts at half past eight. -/
theorem starts_lag_before_now_shortLag :
    let feed := feedOf shortLag noTokens .offline .standard .admin
    let s := Session.start () quarterPast
    shortLag.validate = .ok () ∧ shortLag.lag.nanos ≤ longestLag ∧
      Instant.firstSecond * 1000000000 ≤ s.now.count - shortLag.lag.nanos ∧
      ∃ begin : Instant, begin.seconds = 1710491400 ∧ begin.nanos = 250000000 ∧
        (feed.poll "" 0 none).outcome s = (feed.read (feed.opened .initial begin 0)).outcome s ∧
        (feed.query (feed.opened .initial begin 0)).startTime = some begin := by
  intro feed s
  have hfault : shortLag.fault = none := by decide +kernel
  have hvalid : shortLag.validate = .ok () := by rw [ConnectorConfig.validate, hfault]
  have hlag : shortLag.lag.nanos ≤ longestLag := by decide
  have htime : Instant.firstSecond * 1000000000 ≤ s.now.count - shortLag.lag.nanos := by decide
  obtain ⟨⟨begin, hcount, -, hplain, hpoll, hstart, -⟩, -⟩ :=
    starts_lag_before_now (c := withTokens shortLag noTokens.source .offline .standard) hvalid
      (.inl ⟨hlag, rfl⟩) htime .admin 0
  have hnow : s.now.count - shortLag.lag.nanos = 1710491400250000000 := by decide
  have hnanos : begin.nanos < 1000000000 := hplain (by decide)
  have htotal : begin.seconds * 1000000000 + begin.nanos = 1710491400250000000 := hcount.trans hnow
  exact ⟨hvalid, hlag, htime, begin, by omega, by omega, hpoll, hstart⟩

/-- A configuration that looks back further than spans go. -/
def hugeLag : ConnectorConfig :=
  { shortLag with lag := .ofSeconds 9223372036854776 }

/-- **A checked lag need not be the one that counts**: with this one a poll starts an hour before
now. -/
theorem starts_an_hour_before_now_hugeLag :
    let feed := feedOf hugeLag noTokens .offline .standard .admin
    let s := Session.start () quarterPast
    hugeLag.validate = .ok () ∧
      ∃ begin : Instant, begin.count = s.now.count - 3600000000000 ∧
        (feed.poll "" 0 none).outcome s = (feed.read (feed.opened .initial begin 0)).outcome s ∧
        (feed.query (feed.opened .initial begin 0)).startTime = some begin ∧
        begin.count ≠ s.now.count - hugeLag.lag.nanos := by
  intro feed s
  have hfault : hugeLag.fault = none := by decide +kernel
  have hbegin : feed.begin? none s.now =
      some ⟨1710493200, 250000000, by decide, by decide, by decide⟩ := by decide +kernel
  refine ⟨by rw [ConnectorConfig.validate, hfault], _, by decide,
    Feed.outcome_poll_eq_read Cursor.decode_empty hbegin 0,
    Feed.startTime_query_opened rfl _ 0, by decide⟩

end Connector

end AuditFeed
