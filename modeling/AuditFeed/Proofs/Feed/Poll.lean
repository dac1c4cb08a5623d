import AuditFeed.Feed
import AuditFeed.Proofs.Instant.Order
import AuditFeed.Proofs.Session

/-!
# What a poll does

A poll is opened up once, here: `returns_poll` lists the stages that a successful one goes through,
with the session between any two of them, and `returns_interpretAll` says that the interpretation of
a page does to the cursor exactly what noting all times of the page does, whatever becomes of the
activities themselves. Nothing that is proved of feeds looks inside of `Feed.poll` again.

## The cursor apart from the page

What a poll does to its cursor is said of the cursor alone. `Cursor.observeAll` folds the times of a
page into it, and `Cursor.advance` has two cases, a page that names another one and the last page of
a window. So the accounts of windows are kept without sessions, and a poll enters them with its list
of times.

The cursor that the page is asked for with is `Feed.opened`. It is a function of the cursor that was
given, the start and the size, and the same one in every statement about polls, so that what two of
them say of a query can be put together.

## The ways in which a poll can end

Besides `returns_poll` there is one equation or judgement for each other end:

* a token that is refused ends it before anything is asked (`fails_poll_of_decode`);
* a start that is needed and is no time leaves it without an outcome (`outcome_poll_of_begin_none`);
* a page that cannot be had is its error, behind the name of the log (`fails_poll_of_source`).

`outcome_poll_of_begin` is what is left of a poll after its first two stages. It is an equation of
outcomes, so it serves for success, failure and overflow alike.
-/

namespace AuditFeed.Cursor

/-- Notes many activity times, in order. -/
def observeAll (c : Cursor) (times : List Instant) : Cursor :=
  times.foldl observe c

@[simp] theorem observeAll_nil (c : Cursor) : c.observeAll [] = c := rfl

/-- Times are noted one by one, in order. -/
theorem observeAll_cons (c : Cursor) (t : Instant) (ts : List Instant) :
    c.observeAll (t :: ts) = (c.observe t).observeAll ts := rfl

/-- Where a latest time is noted already, noting more of them leaves the latest of all and touches
nothing else. -/
theorem observeAll_of_latest {c : Cursor} {l : Instant} (h : c.latestSeen = some l)
    (ts : List Instant) : c.observeAll ts = { c with latestSeen := some (l.latest ts) } := by
  induction ts generalizing c l with
  | nil => rw [observeAll_nil, Instant.latest_nil, ← h]
  | cons t ts ih =>
    have hstep : (c.observe t).latestSeen = some (max l t) := by
      rw [observe, h]
    rw [observeAll_cons, ih hstep, Instant.latest_cons, observe]

/-- A page that names another one leaves the window as it is. -/
theorem advance_of_token {next : Option String} {token : String}
    (h : next.filter (!·.isEmpty) = some token) (c : Cursor) :
    c.advance next = { c with pageToken := token } := by
  rw [advance, h]

/-- The last page of a window moves its start forward to the latest time seen. -/
theorem advance_of_last {next : Option String} (h : next.filter (!·.isEmpty) = none) {c : Cursor}
    {start latest : Instant} (hstart : c.startAt = some start)
    (hlatest : c.latestSeen = some latest) :
    c.advance next =
      { c with pageToken := "", latestSeen := none, startAt := some (max start latest) } := by
  rw [advance, h]
  simp only [hlatest, hstart]

end AuditFeed.Cursor

namespace AuditFeed.Feed

open Call

variable {ω : Type} {f : Feed ω} {s t : Session ω}

/-- The cursor with which a poll asks for its page. -/
def opened (f : Feed ω) (given : Cursor) (begin : Instant) (requested : UInt32) : Cursor :=
  { given.openWindow begin with pageSize := f.pageSize (given.openWindow begin) requested }

/-- What the caller sees of a page that cannot be had. -/
def refusal (f : Feed ω) (e : RequestError) : SyncError :=
  e.classify s!"listing {f.kind.application} activities"

/-- What becomes of an activity: its events, or none where it cannot be interpreted, or the end of
the poll where that is the caller's doing. -/
def own (f : Feed ω) (a : Activity) : Call ω SyncError (List Event) := do
  match ← (f.interpret a).attempt with
  | .ok events => return events
  | .error _ => if (← get).cancelled then throw f.cancelled else return []

/-- An empty page has no events and leaves the cursor as it is. -/
theorem interpretAll_nil (f : Feed ω) (c : Cursor) : f.interpretAll c [] = pure ([], c) := rfl

/-- **A page is gone through once**: the time of each activity is noted before the rest is looked
at, and its events come before those of the rest. -/
theorem interpretAll_cons (f : Feed ω) (c : Cursor) (a : Activity) (as : List Activity) :
    f.interpretAll c (a :: as) = do
      let events ← f.own a
      let (rest, c) ← f.interpretAll (c.observe a.occurredAt) as
      return (events ++ rest, c) := by
  rw [interpretAll, own, bind_assoc]
  refine bind_congr fun outcome ↦ ?_
  cases outcome with
  | ok events => rfl
  | error e =>
    simp only [bind_assoc]
    refine bind_congr fun u ↦ ?_
    split
    · rfl
    · rfl

/-- **The cursor notes the time of every activity of a page**, also of those that are skipped. -/
theorem returns_interpretAll {as : List Activity} {c : Cursor} {events : List Event}
    {seen : Cursor} (h : (f.interpretAll c as).Returns s (events, seen) t) :
    seen = c.observeAll (as.map (·.occurredAt)) := by
  induction as generalizing c s t events with
  | nil =>
    rw [interpretAll_nil, returns_pure] at h
    cases h.1
    rfl
  | cons a as ih =>
    rw [interpretAll_cons] at h
    obtain ⟨own, v, -, h⟩ := returns_bind.1 h
    obtain ⟨⟨rest, last⟩, w, hrest, h⟩ := returns_bind.1 h
    obtain ⟨heq, -⟩ := returns_pure.1 h
    cases heq
    rw [List.map_cons, Cursor.observeAll_cons]
    exact ih hrest

/-- **The stages of a successful poll**: the token is decoded, the start is found, the page is had,
its activities are interpreted, and the cursor moves past it. -/
theorem returns_poll {token : String} {requested : UInt32} {start : Option Instant}
    {r : PollResult} :
    (f.poll token requested start).Returns s r t ↔
      ∃ given begin u page v events seen,
        Cursor.decode token = .ok given ∧
        (f.defaultStart start).Returns s begin u ∧
        (f.source (f.query (f.opened given begin requested))).Returns u page v ∧
        (f.interpretAll (f.opened given begin requested) page.items).Returns v (events, seen) t ∧
        r = ⟨events, (seen.advance page.nextPageToken).encode,
          (seen.advance page.nextPageToken).isMidWindow⟩ := by
  rw [poll, returns_bind]
  constructor
  · rintro ⟨given, s', hgiven, h⟩
    obtain ⟨hdecode, rfl⟩ := returns_ofExcept.1 hgiven
    obtain ⟨begin, u, hbegin, h⟩ := returns_bind.1 h
    obtain ⟨page, v, hpage, h⟩ := returns_bind.1 h
    obtain ⟨⟨events, seen⟩, w, hall, h⟩ := returns_bind.1 h
    obtain ⟨rfl, rfl⟩ := returns_pure.1 h
    exact ⟨given, begin, u, page, v, events, seen, hdecode, hbegin, returns_mapError.1 hpage, hall,
      rfl⟩
  · rintro ⟨given, begin, u, page, v, events, seen, hdecode, hbegin, hpage, hall, rfl⟩
    refine ⟨given, s, returns_ofExcept.2 ⟨hdecode, rfl⟩, ?_⟩
    refine returns_bind.2 ⟨begin, u, hbegin, ?_⟩
    refine returns_bind.2 ⟨page, v, returns_mapError.2 hpage, ?_⟩
    refine returns_bind.2 ⟨(events, seen), t, hall, ?_⟩
    exact returns_pure.2 ⟨rfl, rfl⟩

/-- Where a poll starts that is given no cursor, if that is a time at all. -/
def begin? (f : Feed ω) (start : Option Instant) (now : Instant) : Option Instant :=
  start.or (now.sub? f.config.lag)

/-- A start that is needed and is no time ends the poll without an answer. -/
theorem outcome_defaultStart (start : Option Instant) (s : Session ω) :
    (f.defaultStart start).outcome s =
      match f.begin? start s.now with
      | some begin => .ok (.ok begin, s)
      | none => .error .time := by
  cases start with
  | some time => rfl
  | none =>
    rw [defaultStart, outcome_bind, outcome_get]
    dsimp only
    rw [outcome_checked, begin?, Option.none_or]
    cases s.now.sub? f.config.lag with
    | some begin => rfl
    | none => rfl

/-- A poll that needs a start and has none ends without an answer. -/
theorem outcome_poll_of_begin_none {token : String} {start : Option Instant} {given : Cursor}
    (hdecode : Cursor.decode token = .ok given) (hbegin : f.begin? start s.now = none)
    (requested : UInt32) : (f.poll token requested start).outcome s = .error .time := by
  rw [poll, outcome_bind, outcome_ofExcept, hdecode]
  dsimp only
  rw [outcome_bind, outcome_defaultStart, hbegin]

/-- With a cursor and a start, a poll asks for its page and interprets it. -/
theorem outcome_poll_of_begin {token : String} {start : Option Instant} {given : Cursor}
    {begin : Instant} (hdecode : Cursor.decode token = .ok given)
    (hbegin : f.begin? start s.now = some begin) (requested : UInt32) :
    (f.poll token requested start).outcome s =
      (do
        let page ← (f.source (f.query (f.opened given begin requested))).mapError f.refusal
        let (events, seen) ← f.interpretAll (f.opened given begin requested) page.items
        return ⟨events, (seen.advance page.nextPageToken).encode,
          (seen.advance page.nextPageToken).isMidWindow⟩ :
        Call ω SyncError PollResult).outcome s := by
  rw [poll, outcome_bind, outcome_ofExcept, hdecode]
  dsimp only
  rw [outcome_bind, outcome_defaultStart, hbegin]
  rfl

/-- A page that cannot be had is an error of the poll, which then ends. -/
theorem fails_poll_of_source {token : String} {requested : UInt32} {start : Option Instant}
    {given : Cursor} {begin : Instant} {e : RequestError}
    (hdecode : Cursor.decode token = .ok given) (hbegin : f.begin? start s.now = some begin)
    (h : (f.source (f.query (f.opened given begin requested))).Fails s e t) :
    (f.poll token requested start).Fails s (f.refusal e) t := by
  rw [Fails, outcome_poll_of_begin hdecode hbegin]
  exact fails_bind.2 (.inl (fails_mapError.2 ⟨e, rfl, h⟩))

/-- A token that is refused is refused before anything is asked or sent. -/
theorem fails_poll_of_decode {token : String} {e : SyncError}
    (h : Cursor.decode token = .error e) (requested : UInt32) (start : Option Instant)
    (s : Session ω) : (f.poll token requested start).Fails s e s := by
  rw [poll]
  exact fails_bind.2 (.inl (fails_ofExcept.2 ⟨h, rfl⟩))

end AuditFeed.Feed
