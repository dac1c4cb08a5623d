import AuditFeed.Proofs.Cursor.Token
import AuditFeed.Proofs.Feed.Poll
import Mathlib.Data.List.Chain

/-!
# Windows over whole runs

A feed is read by successive polls, each with the token that the one before returned. `IsRun` is
such a run, **the latest poll first**, so a run is extended at its head and an induction on it goes
back in time. Between two polls anything may happen to the session, and polls may ask for any start
and any size.

## Visits

`Visit` bundles a successful poll with all that its stages went through: the cursor of its token,
the start, the page, and the sessions in between. Its fields are the hypotheses that every statement
about polls would have to repeat, and `Visit.exists_of_returns` says that they cost nothing, since
every successful poll is one. A `Visit` is given for a fixed feed, so a run is one of a single feed;
two runs that are compared may be of two feeds.

## Which polls read one window

The polls that read one window are found from the cursors alone: a poll continues the window of the
poll before it if the cursor that it is given has a continuation token. `windowStart` and
`windowLatest` are the accounts of that window, read off its first poll and off all pages that were
read of it. Neither looks at a cursor in between.

Both are carried from poll to poll through a token, which is why the round trip of tokens is needed
here (`Visit.given_eq_next`). That the cursor holds the same as the accounts (`account_eq`) is the
induction that all else rests on.

## What is not assumed

Times may come in any order, on any page, and before the start of the window. An activity that is
skipped counts with its time like any other. A run may begin anywhere: the first poll of it may be
given a cursor in the middle of a window, and then the window begins with what that cursor holds.

## Main statements

* `window_account`: what a token stands for after each poll of a run, that starts never go back, and
  that neither order nor pages matter.
-/

namespace AuditFeed.Feed

open Call

variable {ω : Type} {f : Feed ω}

/-- A successful poll, with the cursor it was given, the page it read and what it returned. -/
structure Visit (f : Feed ω) where
  /-- The token that the caller gave. -/
  token : String
  /-- The page size that the caller asked for. -/
  requested : UInt32
  /-- The start that the caller asked for. -/
  start : Option Instant
  /-- The session before the poll. -/
  before : Session ω
  /-- The cursor of the token. -/
  given : Cursor
  /-- The token is accepted. -/
  decodes : Cursor.decode token = .ok given
  /-- Where a window without a start begins. -/
  begin : Instant
  /-- The session in which the page is asked for. -/
  asked : Session ω
  /-- The default start is found. -/
  begins : (f.defaultStart start).Returns before begin asked
  /-- The page that is read. -/
  page : ActivityPage
  /-- The session in which the page is interpreted. -/
  fetched : Session ω
  /-- The page is had. -/
  fetches : (f.source (f.query (f.opened given begin requested))).Returns asked page fetched
  /-- What the poll returns. -/
  result : PollResult
  /-- The session after the poll. -/
  after : Session ω
  /-- The poll returns it. -/
  returns : (f.poll token requested start).Returns before result after

namespace Visit

/-- Every successful poll is a visit. -/
theorem exists_of_returns {token : String} {requested : UInt32} {start : Option Instant}
    {s t : Session ω} {r : PollResult} (h : (f.poll token requested start).Returns s r t) :
    ∃ v : Visit f, v.token = token ∧ v.requested = requested ∧ v.start = start ∧ v.before = s ∧
      v.result = r ∧ v.after = t := by
  obtain ⟨given, begin, u, page, u', events, seen, hdecode, hbegin, hpage, -, -⟩ :=
    returns_poll.1 h
  exact ⟨⟨token, requested, start, s, given, hdecode, begin, u, hbegin, page, u', hpage, r, t, h⟩,
    rfl, rfl, rfl, rfl, rfl, rfl⟩

/-- The start of the window that is read. -/
def startAt (v : Visit f) : Instant :=
  v.given.startAt.getD v.begin

/-- The latest time seen before the page is read. -/
def latest (v : Visit f) : Instant :=
  v.given.latestSeen.getD v.startAt

/-- The times of all activities of the page. -/
def times (v : Visit f) : List Instant :=
  v.page.items.map (·.occurredAt)

/-- The cursor that is behind the token that is returned. -/
def next (v : Visit f) : Cursor :=
  ((f.opened v.given v.begin v.requested).observeAll v.times).advance v.page.nextPageToken

/-- What a poll returns is told by the cursor that it leaves. -/
theorem result_eq (v : Visit f) :
    v.result.cursor = v.next.encode ∧ v.result.hasMore = v.next.isMidWindow := by
  obtain ⟨given, begin, u, page, u', events, seen, hdecode, hbegin, hpage, hall, hresult⟩ :=
    returns_poll.1 v.returns
  -- The stages are those of the visit, since each of them ends in one way only.
  cases v.decodes.symm.trans hdecode
  obtain ⟨rfl, rfl⟩ := v.begins.unique hbegin
  obtain ⟨rfl, rfl⟩ := v.fetches.unique hpage
  have hseen : seen = (f.opened v.given v.begin v.requested).observeAll v.times :=
    returns_interpretAll hall
  rw [hresult, hseen]
  exact ⟨rfl, rfl⟩

/-- A token decodes to the cursor behind it. -/
theorem next_eq_of_decode {v : Visit f} {c : Cursor}
    (h : Cursor.decode v.result.cursor = .ok c) : c = v.next := by
  rw [v.result_eq.1, Cursor.decode_encode] at h
  split at h
  · exact (Except.ok.inj h).symm
  · cases h

/-- The cursor that a poll is given is the one that the poll before it left. -/
theorem given_eq_next {v w : Visit f} (h : v.token = w.result.cursor) : v.given = w.next :=
  next_eq_of_decode (h ▸ v.decodes)

/-- **What one poll does to a window.** A page that names another one keeps the window's start and
moves the latest time seen; the last page closes the window and moves the start. -/
theorem next_cases (v : Visit f) :
    (v.next.pageToken ≠ "" ∧ v.next.startAt = some v.startAt ∧
      v.next.latestSeen = some (v.latest.latest v.times)) ∨
    (v.next.pageToken = "" ∧ v.next.startAt = some (max v.startAt (v.latest.latest v.times)) ∧
      v.next.latestSeen = none) := by
  have hseen := Cursor.observeAll_of_latest (c := f.opened v.given v.begin v.requested)
    (l := v.latest) rfl v.times
  rw [next, hseen]
  cases hnext : v.page.nextPageToken.filter (!·.isEmpty) with
  | some token =>
    refine .inl ?_
    rw [Cursor.advance_of_token hnext]
    refine ⟨?_, rfl, rfl⟩
    have hne := (Option.filter_eq_some_iff.1 hnext).2
    rintro rfl
    exact absurd hne (by decide)
  | none =>
    refine .inr ?_
    rw [Cursor.advance_of_last hnext rfl rfl]
    exact ⟨rfl, rfl, rfl⟩

/-- There is more exactly if the window goes on. -/
theorem hasMore_iff (v : Visit f) : v.result.hasMore = true ↔ v.next.pageToken ≠ "" := by
  rw [v.result_eq.2, Cursor.isMidWindow]
  simp

/-- There is none exactly if it is closed. -/
theorem hasMore_eq_false_iff (v : Visit f) :
    v.result.hasMore = false ↔ v.next.pageToken = "" := by
  rw [← Bool.not_eq_true, hasMore_iff, not_not]

/-- A poll never moves the start back. -/
theorem exists_startAt_next (v : Visit f) :
    ∃ t, v.next.startAt = some t ∧ ∀ s ∈ v.given.startAt, s ≤ t := by
  have hgiven : ∀ t, v.startAt ≤ t → ∀ s ∈ v.given.startAt, s ≤ t := by
    intro t hle s hs
    rwa [startAt, hs, Option.getD_some] at hle
  rcases v.next_cases with ⟨-, hstart, -⟩ | ⟨-, hstart, -⟩
  · exact ⟨_, hstart, hgiven _ (Instant.le_refl _)⟩
  · exact ⟨_, hstart, hgiven _ (Instant.le_max_left _ _)⟩

end Visit

/-! ### Runs and their windows -/

/-- Is this a run, the latest poll first, each with the token that the one before returned? -/
def IsRun (polls : List (Visit f)) : Prop :=
  polls.IsChain fun later earlier ↦ later.token = earlier.result.cursor

/-- The first poll that reads the window which `v` reads after the polls `past`. -/
def opening (v : Visit f) : List (Visit f) → Visit f
  | [] => v
  | w :: past => if v.given.isMidWindow then opening w past else v

/-- The times of all activities that were read of the window which `v` reads after the polls
`past`. -/
def windowTimes (v : Visit f) : List (Visit f) → List Instant
  | [] => v.times
  | w :: past => if v.given.isMidWindow then v.times ++ windowTimes w past else v.times

/-- Where the window starts that `v` reads after the polls `past`. -/
def windowStart (v : Visit f) (past : List (Visit f)) : Instant :=
  (opening v past).startAt

/-- The latest time seen before the window was read that `v` reads after the polls `past`. -/
def windowFloor (v : Visit f) (past : List (Visit f)) : Instant :=
  (opening v past).latest

/-- The latest time of the window that `v` reads after the polls `past`. -/
def windowLatest (v : Visit f) (past : List (Visit f)) : Instant :=
  (windowFloor v past).latest (windowTimes v past)

/-- **The account that a token carries is that of its window.** The induction goes back along the
run; a window that is continued has its start and its latest time in the token. -/
theorem account_eq {v : Visit f} {past : List (Visit f)} (hrun : IsRun (v :: past)) :
    v.startAt = windowStart v past ∧ v.latest.latest v.times = windowLatest v past := by
  induction past generalizing v with
  | nil => exact ⟨rfl, rfl⟩
  | cons w past ih =>
    obtain ⟨htoken, hpast⟩ := List.isChain_cons_cons.1 hrun
    obtain ⟨ihstart, ihlatest⟩ := ih hpast
    by_cases hmid : v.given.isMidWindow = true
    -- The window is continued: what `w` left in the token is its account, by the induction.
    · have hgiven := Visit.given_eq_next htoken
      have hmore : w.next.pageToken ≠ "" := by
        rw [← Visit.hasMore_iff, w.result_eq.2, ← hgiven]
        exact hmid
      rcases w.next_cases with ⟨-, hstart, hlatest⟩ | ⟨hlast, -⟩
      · have hstart' : v.startAt = windowStart w past := by
          rw [← ihstart, Visit.startAt, hgiven, hstart, Option.getD_some]
        have hlatest' : v.latest = windowLatest w past := by
          rw [← ihlatest, Visit.latest, hgiven, hlatest, Option.getD_some]
        simp only [windowStart, windowLatest, windowFloor, opening, windowTimes, hmid, if_true]
        refine ⟨hstart', ?_⟩
        -- The pages are listed with the latest first, but were noted in the order of the polls.
        rw [hlatest', windowLatest, ← Instant.latest_append]
        exact Instant.latest_eq_of_mem_iff fun t ↦ by
          rw [List.mem_append, List.mem_append, or_comm]
      · exact absurd hlast hmore
    -- The window is opened by `v`, so that its account starts with what `v` is given.
    · simp only [windowStart, windowLatest, windowFloor, opening, windowTimes, hmid]
      exact ⟨rfl, rfl⟩

/-- Where the next window starts after one that is closed. -/
theorem startAt_of_closed {v : Visit f} {past : List (Visit f)} (hrun : IsRun (v :: past))
    (hclosed : v.result.hasMore = false) :
    v.next.startAt = some (max (windowStart v past) (windowLatest v past)) := by
  obtain ⟨hstart, hlatest⟩ := account_eq hrun
  rcases v.next_cases with ⟨hmore, -⟩ | ⟨-, hs, -⟩
  · exact absurd (v.hasMore_eq_false_iff.1 hclosed) hmore
  · rw [hs, hstart, hlatest]

/-- The start never goes back along a run, from the cursor that any of its polls is given on. -/
theorem start_mono {v : Visit f} {past : List (Visit f)} (hrun : IsRun (v :: past)) :
    ∀ u ∈ v :: past, ∃ t t', u.next.startAt = some t ∧ v.next.startAt = some t' ∧
      (∀ s ∈ u.given.startAt, s ≤ t) ∧ t ≤ t' := by
  induction past generalizing v with
  | nil =>
    intro u hu
    obtain ⟨t, ht, hle⟩ := v.exists_startAt_next
    rw [List.mem_singleton.1 hu]
    exact ⟨t, t, ht, ht, hle, Instant.le_refl t⟩
  | cons w past ih =>
    obtain ⟨htoken, hpast⟩ := List.isChain_cons_cons.1 hrun
    obtain ⟨t', ht', hle'⟩ := v.exists_startAt_next
    intro u hu
    rcases List.mem_cons.1 hu with rfl | hu
    · exact ⟨t', t', ht', ht', hle', Instant.le_refl t'⟩
    · obtain ⟨t, tw, ht, htw, hle, hlew⟩ := ih hpast u hu
      have hgiven : v.given.startAt = some tw := by
        rw [Visit.given_eq_next htoken, htw]
      exact ⟨t, t', ht, ht', hle, Instant.le_trans hlew (hle' tw hgiven)⟩

/-- **Window accounting over whole runs.** After each poll of a run the returned token stands for
one cursor, `v.next`, and for no other. Either it continues the window, with the window's start and
the latest time of all that was read of it, or it closes the window, and the next one starts at the
later of the two; there is more exactly in the first case. That latest time is the greatest of what
the window was opened with and of the times of all its activities, skipped ones included.

Hence the start never goes back, and where a window closes depends neither on the order of its
activities nor on the pages that they came on. -/
theorem window_account {v : Visit f} {past : List (Visit f)} (hrun : IsRun (v :: past)) :
    (v.result.cursor = v.next.encode ∧
      ∀ c, Cursor.decode v.result.cursor = .ok c → c = v.next) ∧
    (v.result.hasMore = true ∧ v.next.pageToken ≠ "" ∧
        v.next.startAt = some (windowStart v past) ∧
        v.next.latestSeen = some (windowLatest v past) ∨
      v.result.hasMore = false ∧ v.next.pageToken = "" ∧ v.next.latestSeen = none ∧
        v.next.startAt = some (max (windowStart v past) (windowLatest v past))) ∧
    (windowLatest v past ∈ windowFloor v past :: windowTimes v past ∧
      ∀ t ∈ windowFloor v past :: windowTimes v past, t ≤ windowLatest v past) ∧
    (∀ u ∈ v :: past, ∃ t t', u.next.startAt = some t ∧ v.next.startAt = some t' ∧
      (∀ s ∈ u.given.startAt, s ≤ t) ∧ t ≤ t') ∧
    ∀ {ω' : Type} {g : Feed ω'} {w : Visit g} {others : List (Visit g)}, IsRun (w :: others) →
      v.result.hasMore = false → w.result.hasMore = false →
      windowStart v past = windowStart w others → windowFloor v past = windowFloor w others →
      (∀ t, t ∈ windowTimes v past ↔ t ∈ windowTimes w others) →
      v.next.startAt = w.next.startAt := by
  refine ⟨⟨v.result_eq.1, fun c ↦ Visit.next_eq_of_decode⟩, ?_, ?_, start_mono hrun, ?_⟩
  · obtain ⟨hstart, hlatest⟩ := account_eq hrun
    rcases v.next_cases with ⟨hmore, hs, hl⟩ | ⟨hlast, hs, hl⟩
    · exact .inl ⟨v.hasMore_iff.2 hmore, hmore, hstart ▸ hs, hlatest ▸ hl⟩
    · exact .inr ⟨v.hasMore_eq_false_iff.2 hlast, hlast, hl, by rw [hs, hstart, hlatest]⟩
  · refine ⟨Instant.latest_mem _ _, fun t ht ↦ ?_⟩
    have hbound := (Instant.latest_le_iff _ _ _).1 (Instant.le_refl (windowLatest v past))
    rcases List.mem_cons.1 ht with rfl | ht
    · exact hbound.1
    · exact hbound.2 t ht
  · intro ω' g w others hrun' hclosed hclosed' hs hfloor hmem
    have hlatest : windowLatest v past = windowLatest w others := by
      rw [windowLatest, windowLatest, hfloor, Instant.latest_eq_of_mem_iff hmem]
    rw [startAt_of_closed hrun hclosed, startAt_of_closed hrun' hclosed', hs, hlatest]

/-! ### A window of two pages -/

/-- An authorization that lacks everything and so is skipped. -/
def bareAuthorization (time : String) : Activity :=
  ⟨⟨time, "1", "token", none⟩, ⟨none, none⟩, [⟨"auth", authorizeEvent, []⟩]⟩

/-- The first or the second page of a window, with the later time on the first one. -/
def pageOfTwo (second : Bool) : ActivityPage :=
  if second then ⟨[bareAuthorization "10"], none⟩ else ⟨[bareAuthorization "20"], some "second"⟩

/-- A feed with windows of two pages. -/
def twoPages : Feed Unit where
  kind := .usage
  config := .standard
  source query := pure (pageOfTwo query.pageToken.isSome)
  directory _ _ := pure .absent

/-- The feed serves the first page or the second one, by the cursor. -/
theorem fetches_twoPages (c : Cursor) (s : Session Unit) :
    (twoPages.source (twoPages.query c)).Returns s (pageOfTwo c.isMidWindow) s := by
  refine returns_pure.2 ⟨?_, rfl⟩
  show pageOfTwo (if c.isMidWindow then some c.pageToken else none).isSome = _
  cases c.isMidWindow <;> rfl

/-- Its activities are skipped, and their times noted. -/
theorem interpretAll_twoPages (c : Cursor) (second : Bool) :
    (twoPages.interpretAll c (pageOfTwo second).items).Returns (.start () .epoch)
      ([], c.observeAll ((pageOfTwo second).items.map (·.occurredAt))) (.start () .epoch) := by
  cases second <;> rfl

/-- The poll of that feed with a token. -/
def visitTwoPages (token : String) (given : Cursor) (h : Cursor.decode token = .ok given) :
    Visit twoPages :=
  let opened := twoPages.opened given .epoch 0
  let page := pageOfTwo given.isMidWindow
  let seen := opened.observeAll (page.items.map (·.occurredAt))
  let s := Session.start () .epoch
  { token, requested := 0, start := some .epoch, before := s, given, decodes := h, begin := .epoch
    asked := s, begins := returns_pure.2 ⟨rfl, rfl⟩
    page, fetched := s, fetches := fetches_twoPages opened s
    result := ⟨[], (seen.advance page.nextPageToken).encode,
      (seen.advance page.nextPageToken).isMidWindow⟩
    after := s
    returns := returns_poll.2 ⟨given, .epoch, s, page, s, [], seen, h, returns_pure.2 ⟨rfl, rfl⟩,
      fetches_twoPages opened s, interpretAll_twoPages opened _, rfl⟩ }

/-- The first poll of that feed. -/
def firstOfTwo : Visit twoPages :=
  visitTwoPages "" .initial Cursor.decode_empty

/-- The token between its two polls is accepted. -/
theorem decode_firstOfTwo : Cursor.decode firstOfTwo.result.cursor = .ok firstOfTwo.next := by
  have hplain : firstOfTwo.next.HasPlainTimes := by decide +kernel
  rw [firstOfTwo.result_eq.1, Cursor.decode_encode, if_pos hplain]

/-- The second poll of that feed. -/
def secondOfTwo : Visit twoPages :=
  visitTwoPages firstOfTwo.result.cursor firstOfTwo.next decode_firstOfTwo

/-- The later time, of a skipped activity of the first page, is where the window closes. -/
theorem window_account_twoPages :
    IsRun [secondOfTwo, firstOfTwo] ∧ secondOfTwo.result.hasMore = false ∧
      secondOfTwo.next.startAt = some (bareAuthorization "20").occurredAt := by
  have hrun : IsRun [secondOfTwo, firstOfTwo] := List.isChain_pair.2 rfl
  obtain ⟨-, hmore | hlast, -⟩ := window_account hrun
  · exact absurd hmore.1 (by decide +kernel)
  · refine ⟨hrun, hlast.1, ?_⟩
    rw [hlast.2.2.2]
    decide +kernel

end AuditFeed.Feed
