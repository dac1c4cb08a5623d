import AuditFeed.Collect
import AuditFeed.Proofs.Feed.Delivery
import AuditFeed.Proofs.Moves

/-!
# Collecting is polling by hand

`GoesOn` is what a caller does who polls by hand: one poll after the other, each with the token that
the one before returned, as long as there is more. Two facts tie a collection to it. Whatever a
collection does from where such a chain leads is what it does from where the chain starts, behind
the events of the chain (`outcome_collect_of_goesOn`); and each collection follows such a chain to
its end or to the limit of polls (`exists_goesOn`). How a collection ends is then what its last poll
says, and nothing that happens to the session in between has to be looked at.

## Limits

A collection is defined with a limit of polls, since a feed may always name another page. The limit
matters only until the chain has ended, so a collection that ends does so in the same way under
every higher limit, and `outcome_collect_of_stops` is stated for all limits above the length of the
chain. What a collection makes of a limit that is reached is left out of the comparison with polls
by hand, which know no limit.

## Scripts

Where the pages are a script, the end is found in the script (`Scripted.of_goesOn`): it is the first
page that names no other one. A chain has then used up as many pages as it has polls, all of which
name another one. So it is no longer than the pages at the front of the script that do, and if no
poll of it fails it is exactly as long (`Scripted.exists_end`). A poll can fail for other reasons
than its page, which is why this is a hypothesis and no consequence of the script.

The script is a function of the other side, so a feed may keep any state besides it, and what the
directory does with that state is free.

## Main statements

* `collect_eq_polls`: what a collection comes to, by the chain of single polls, and how many of them
  a script takes.
-/

namespace AuditFeed

/-- What the caller of a collection sees of a poll that failed. -/
def CollectError.ofPoll (cancelled : Bool) (e : SyncError) : CollectError :=
  if cancelled then .interrupted else .failed e

namespace Feed

open Call

variable {ω : Type} {f : Feed ω} {requested : UInt32} {start : Option Instant}
  {token last : String} {s t u : Session ω} {rs : List PollResult}

/-! ### Polls by hand -/

/-- Polls that go on: from `token` and `s`, one poll after the other returns `rs`, each with the
token of the one before and each saying that there is more. The next one would be made with `last`
in `t`. -/
inductive GoesOn (f : Feed ω) (requested : UInt32) (start : Option Instant) :
    String → Session ω → List PollResult → String → Session ω → Prop
  | here {token : String} {s : Session ω} : GoesOn f requested start token s [] token s
  | next {token last : String} {s t u : Session ω} {r : PollResult} {rs : List PollResult}
      (hpoll : (f.poll token requested start).Returns s r u) (hmore : r.hasMore = true)
      (hrest : GoesOn f requested start r.cursor u rs last t) :
      GoesOn f requested start token s (r :: rs) last t

/-- Polls that go on do not go on here: what is polled next, if anything returns, is the last
page. -/
def Stops (f : Feed ω) (requested : UInt32) (start : Option Instant) (token : String)
    (s : Session ω) : Prop :=
  ∀ r t, (f.poll token requested start).Returns s r t → r.hasMore = false

/-- The events of polls, in order. -/
def eventsOf (rs : List PollResult) : List Event :=
  rs.flatMap (·.events)

/-- What is asked of a collection that exhausts a window. -/
def draining (requested : UInt32) (start : Option Instant) (token : String) : PollRequest :=
  ⟨token, requested, start, true⟩

/-- What a collection makes of the outcome of one poll. -/
theorem outcome_pollOnce (f : Feed ω) (r : PollRequest) (s : Session ω) :
    (f.pollOnce r).outcome s =
      match (f.poll r.cursor r.pageSize r.start).outcome s with
      | .ok (page, t) => .ok (page.mapError (.ofPoll t.cancelled), t)
      | .error o => .error o := by
  rw [pollOnce, outcome_bind, outcome_attempt]
  rcases (f.poll r.cursor r.pageSize r.start).outcome s with o | ⟨e | page, t⟩
  · rfl
  · show ((do if (← get).cancelled then throw .interrupted else throw (.failed e)) :
      Call ω CollectError PollResult).outcome t = .ok (.error (.ofPoll t.cancelled e), t)
    rw [outcome_bind, outcome_get, CollectError.ofPoll]
    by_cases ht : t.cancelled = true
    · simp only [ht, if_true]
      rfl
    · simp only [ht]
      rfl
  · rfl

/-- A collection polls once, and goes on where it should and there is more. -/
theorem outcome_collect_succ (f : Feed ω) (r : PollRequest) (limit : Nat) (s : Session ω) :
    (f.collect r (limit + 1)).outcome s =
      match (f.poll r.cursor r.pageSize r.start).outcome s with
      | .ok (.ok page, t) =>
        if r.all && page.hasMore then
          ((f.collect { r with cursor := page.cursor } limit).outcome t).map fun x ↦
            (x.1.map fun rest ↦ { rest with events := page.events ++ rest.events }, x.2)
        else .ok (.ok page, t)
      | .ok (.error e, t) => .ok (.error (.ofPoll t.cancelled e), t)
      | .error o => .error o := by
  rw [collect, outcome_bind, outcome_pollOnce]
  rcases (f.poll r.cursor r.pageSize r.start).outcome s with o | ⟨e | page, t⟩
  · rfl
  · rfl
  · show (if r.all && page.hasMore then do
        let rest ← f.collect { r with cursor := page.cursor } limit
        return { rest with events := page.events ++ rest.events }
      else pure page : Call ω CollectError PollResult).outcome t = _
    dsimp only
    split
    · rw [outcome_bind]
      rcases (f.collect { r with cursor := page.cursor } limit).outcome t with o | ⟨e | rest, u⟩ <;>
        rfl
    · rfl

/-- **Where a chain leads, the collection goes on as if it started there**, behind the events of the
chain. -/
theorem outcome_collect_of_goesOn (h : f.GoesOn requested start token s rs last t) (limit : Nat) :
    (f.collect (draining requested start token) (rs.length + limit)).outcome s =
      ((f.collect (draining requested start last) limit).outcome t).map fun x ↦
        (x.1.map fun rest ↦ { rest with events := eventsOf rs ++ rest.events }, x.2) := by
  -- Each poll of the chain is one turn of the collection, which then goes on as in `ih`.
  induction h with
  | @here token s =>
    rw [List.length_nil, Nat.zero_add]
    rcases (f.collect (draining requested start token) limit).outcome s with o | ⟨e | rest, u⟩ <;>
      rfl
  | @next token last s t u r rs hpoll hmore hrest ih =>
    have houtcome : (f.poll token requested start).outcome s = .ok (.ok r, u) := hpoll
    have hlength : (r :: rs).length + limit = rs.length + limit + 1 := by
      rw [List.length_cons]
      omega
    have ih' : (f.collect { draining requested start token with cursor := r.cursor }
        (rs.length + limit)).outcome u = _ := ih
    rw [hlength, outcome_collect_succ]
    simp only [draining] at houtcome ih' ⊢
    rw [houtcome]
    simp only [hmore, Bool.and_self, if_true]
    rw [ih']
    rcases (f.collect ⟨last, requested, start, true⟩ limit).outcome t with o | ⟨e | rest, v⟩
    · rfl
    · rfl
    · show Except.ok (Except.ok (⟨r.events ++ (eventsOf rs ++ rest.events), rest.cursor,
        rest.hasMore⟩ : PollResult), v) = .ok (.ok ⟨eventsOf (r :: rs) ++ rest.events, _, _⟩, v)
      rw [eventsOf, eventsOf, List.flatMap_cons, List.append_assoc]

/-- The end of a chain is the end of every collection that gets so far. -/
theorem outcome_collect_of_stops (h : f.GoesOn requested start token s rs last t)
    (hstops : f.Stops requested start last t) {limit : Nat} (hlimit : rs.length < limit) :
    (f.collect (draining requested start token) limit).outcome s =
      match (f.poll last requested start).outcome t with
      | .ok (.ok r, u) => .ok (.ok ⟨eventsOf rs ++ r.events, r.cursor, false⟩, u)
      | .ok (.error e, u) => .ok (.error (.ofPoll u.cancelled e), u)
      | .error o => .error o := by
  obtain ⟨left, rfl⟩ : ∃ left, limit = rs.length + (left + 1) :=
    ⟨limit - rs.length - 1, by omega⟩
  rw [outcome_collect_of_goesOn h, outcome_collect_succ]
  simp only [draining]
  rcases hpoll : (f.poll last requested start).outcome t with o | ⟨e | r, u⟩
  · rfl
  · rfl
  · have hlast : r.hasMore = false := hstops r u hpoll
    simp only [hlast, Bool.and_false]
    show Except.ok (Except.ok (⟨eventsOf rs ++ r.events, r.cursor, r.hasMore⟩ : PollResult), u) = _
    rw [hlast]

/-- A collection returns the events of the chain up to the poll that says that there is no more. -/
theorem returns_collect_of_goesOn (h : f.GoesOn requested start token s rs last t)
    {r : PollResult} (hpoll : (f.poll last requested start).Returns t r u)
    (hlast : r.hasMore = false) {limit : Nat} (hlimit : rs.length < limit) :
    (f.collect (draining requested start token) limit).Returns s
      ⟨eventsOf (rs ++ [r]), r.cursor, false⟩ u := by
  have hstops : f.Stops requested start last t := by
    intro r' u' hpoll'
    rwa [(hpoll'.unique hpoll).1]
  have houtcome : (f.poll last requested start).outcome t = .ok (.ok r, u) := hpoll
  have hevents : eventsOf (rs ++ [r]) = eventsOf rs ++ r.events := by
    rw [eventsOf, List.flatMap_append, List.flatMap_singleton, eventsOf]
  rw [Returns, outcome_collect_of_stops h hstops hlimit, houtcome, hevents]

/-- A collection fails where a poll of the chain does. -/
theorem fails_collect_of_goesOn (h : f.GoesOn requested start token s rs last t) {e : SyncError}
    (hpoll : (f.poll last requested start).Fails t e u) {limit : Nat} (hlimit : rs.length < limit) :
    (f.collect (draining requested start token) limit).Fails s (.ofPoll u.cancelled e) u := by
  have houtcome : (f.poll last requested start).outcome t = .ok (.error e, u) := hpoll
  have hstops : f.Stops requested start last t := by
    intro r' u' hpoll'
    cases houtcome.symm.trans hpoll'
  rw [Fails, outcome_collect_of_stops h hstops hlimit, houtcome]

/-- A collection ends without an answer where a poll of the chain does. -/
theorem overflow_collect_of_goesOn (h : f.GoesOn requested start token s rs last t) {o : Overflow}
    (hpoll : (f.poll last requested start).outcome t = .error o) {limit : Nat}
    (hlimit : rs.length < limit) :
    (f.collect (draining requested start token) limit).outcome s = .error o := by
  have hstops : f.Stops requested start last t := by
    intro r' u' hpoll'
    cases hpoll.symm.trans hpoll'
  rw [outcome_collect_of_stops h hstops hlimit, hpoll]

/-- **A collection follows a chain**, to where it stops or to the limit. -/
theorem exists_goesOn (f : Feed ω) (requested : UInt32) (start : Option Instant) (limit : Nat)
    (token : String) (s : Session ω) :
    ∃ rs last t, f.GoesOn requested start token s rs last t ∧
      (rs.length < limit ∧ f.Stops requested start last t ∨ rs.length = limit) := by
  induction limit generalizing token s with
  | zero => exact ⟨[], token, s, .here, .inr rfl⟩
  | succ limit ih =>
    by_cases hstops : f.Stops requested start token s
    · exact ⟨[], token, s, .here, .inl ⟨Nat.succ_pos limit, hstops⟩⟩
    · simp only [Stops, not_forall, Bool.not_eq_false] at hstops
      obtain ⟨r, u, hpoll, hmore⟩ := hstops
      obtain ⟨rs, last, t, hrest, hend⟩ := ih r.cursor u
      refine ⟨r :: rs, last, t, .next hpoll hmore hrest, ?_⟩
      rcases hend with ⟨hlt, hstops⟩ | heq
      · exact .inl ⟨Nat.succ_lt_succ hlt, hstops⟩
      · exact .inr (congrArg Nat.succ heq)

/-! ### Scripts of pages -/

/-- Are the pages a script? `left` says which answers are left, in order; each time a page is asked
for, the first of them is given and used up, and where none is left an empty page is given. The
directory does not touch them. -/
structure Scripted (f : Feed ω) (left : ω → List (Except RequestError ActivityPage)) : Prop where
  /-- Asking for a page uses up one answer. -/
  asked : ∀ query s, ∃ t,
    (f.source query).outcome s = .ok ((left s.peer).headD (.ok .empty), t) ∧
      left t.peer = (left s.peer).tail
  /-- Asking for an email uses up none. -/
  resolved : ∀ type email s r t, (f.directory type email).outcome s = .ok (r, t) →
    left t.peer = left s.peer

/-- Is this a page that names another one? -/
def namesNext : Except RequestError ActivityPage → Bool
  | .ok page => (page.nextPageToken.filter (!·.isEmpty)).isSome
  | .error _ => false

/-- How many pages at the front of a script name another one. -/
def leadingPages (pages : List (Except RequestError ActivityPage)) : Nat :=
  (pages.takeWhile namesNext).length

/-- There is more after a page exactly if it names another one. -/
theorem isMidWindow_advance (c : Cursor) (page : ActivityPage) :
    (c.advance page.nextPageToken).isMidWindow = namesNext (.ok page) := by
  rw [namesNext]
  cases hnext : page.nextPageToken.filter (!·.isEmpty) with
  | some token =>
    rw [Cursor.advance_of_token hnext]
    exact (Option.filter_eq_some_iff.1 hnext).2
  | none =>
    rw [Cursor.advance, hnext]
    dsimp only
    split <;> rfl

namespace Scripted

variable {left : ω → List (Except RequestError ActivityPage)}

/-- A poll that returns has used up one page, and says whether it named another one. -/
theorem of_returns (h : f.Scripted left) {r : PollResult}
    (hpoll : (f.poll token requested start).Returns s r t) :
    r.hasMore = namesNext ((left s.peer).headD (.ok .empty)) ∧
      left t.peer = (left s.peer).tail := by
  obtain ⟨given, begin, u, page, v, events, seen, -, hbegin, hpage, hall, rfl⟩ :=
    returns_poll.1 hpoll
  have hsame : u = s := by
    have houtcome := outcome_defaultStart (f := f) start s
    rw [hbegin] at houtcome
    cases hb : f.begin? start s.now with
    | none =>
      rw [hb] at houtcome
      cases houtcome
    | some b =>
      rw [hb] at houtcome
      cases houtcome
      rfl
  subst hsame
  obtain ⟨w, hw, hleft⟩ := h.asked (f.query (f.opened given begin requested)) u
  rw [hpage] at hw
  obtain ⟨hpage, rfl⟩ := Prod.mk.inj (Except.ok.inj hw)
  exact ⟨by rw [isMidWindow_advance, hpage], (peer_interpretAll h.resolved hall).trans hleft⟩

/-- **A chain has used up as many pages as it has polls**, all of which name another one. -/
theorem of_goesOn (h : f.Scripted left) (hgoes : f.GoesOn requested start token s rs last t) :
    left t.peer = (left s.peer).drop rs.length ∧
      leadingPages (left s.peer) = rs.length + leadingPages (left t.peer) := by
  induction hgoes with
  | here => exact ⟨rfl, (Nat.zero_add _).symm⟩
  | @next token last s t u r rs hpoll hmore _ ih =>
    obtain ⟨hnames, hleft⟩ := h.of_returns hpoll
    rw [hmore] at hnames
    rw [hleft] at ih
    obtain ⟨ihleft, ihleading⟩ := ih
    cases hpages : left s.peer with
    | nil =>
      rw [hpages] at hnames
      cases hnames
    | cons page pages =>
      rw [hpages] at hnames ihleft ihleading
      rw [List.headD_cons] at hnames
      have hstep : leadingPages (page :: pages) = leadingPages pages + 1 := by
        rw [leadingPages, List.takeWhile_cons_of_pos hnames.symm, List.length_cons, leadingPages]
      refine ⟨ihleft, ?_⟩
      rw [List.tail_cons] at ihleading
      rw [hstep, ihleading, List.length_cons]
      omega

/-- A chain stops where the script has no page left that names another one. -/
theorem stops_iff (h : f.Scripted left) {r : PollResult}
    (hpoll : (f.poll token requested start).Returns s r t) :
    r.hasMore = false ↔ leadingPages (left s.peer) = 0 := by
  rw [(h.of_returns hpoll).1, leadingPages, List.length_eq_zero_iff]
  cases left s.peer with
  | nil => simp [namesNext, ActivityPage.empty]
  | cons page pages => simp [List.takeWhile_cons]

/-- **A chain in which no poll fails gets to the end of the script**: it cannot go on for longer
than the script names pages, and does not stop before. -/
theorem exists_end (h : f.Scripted left)
    (hall : ∀ rs last t, f.GoesOn requested start token s rs last t →
      ∃ r u, (f.poll last requested start).Returns t r u) :
    ∃ rs last t r u, f.GoesOn requested start token s rs last t ∧
      rs.length = leadingPages (left s.peer) ∧
      (f.poll last requested start).Returns t r u ∧ r.hasMore = false ∧
      left u.peer = (left s.peer).drop (rs.length + 1) := by
  obtain ⟨rs, last, t, hgoes, hend⟩ :=
    exists_goesOn f requested start (leadingPages (left s.peer) + 1) token s
  obtain ⟨hleft, hleading⟩ := h.of_goesOn hgoes
  obtain ⟨r, u, hpoll⟩ := hall rs last t hgoes
  -- A chain of one poll more would have more polls than the script names pages.
  have hstops : f.Stops requested start last t := by
    rcases hend with ⟨-, hstops⟩ | hlength
    · exact hstops
    · omega
  have hlast := hstops r u hpoll
  have hzero := (h.stops_iff hpoll).1 hlast
  refine ⟨rs, last, t, r, u, hgoes, by omega, hpoll, hlast, ?_⟩
  rw [(h.of_returns hpoll).2, hleft, List.tail_drop]

end Scripted

/-- **Collecting a window is polling it by hand.** A collection that is not to exhaust the window is
one poll. One that is to exhaust it follows the chain of single polls, each with the token that the
one before returned and with the same size and start: it returns the events of the chain in order
and the last token, and that there is no more, as soon as the chain gets to a poll that says so; if
a poll of the chain fails, it fails with that error, or as interrupted if the caller has cancelled
by then; and it ends without an answer where a poll does. Nothing else ends a collection but its
limit, which it only feels where the chain goes on up to it.

Where the pages are a script, a chain is no longer than the pages at its front that name another
one. If no poll of the chain fails, it is just as long, one more poll ends it, and a collection that
is allowed so many polls returns. -/
theorem collect_eq_polls (f : Feed ω) (requested : UInt32) (start : Option Instant)
    (token : String) (s : Session ω) :
    (∀ limit, (f.collect ⟨token, requested, start, false⟩ (limit + 1)).outcome s =
      match (f.poll token requested start).outcome s with
      | .ok (r, t) => .ok (r.mapError (.ofPoll t.cancelled), t)
      | .error o => .error o) ∧
    (∀ rs last t, f.GoesOn requested start token s rs last t → ∀ limit, rs.length < limit →
      (∀ r u, (f.poll last requested start).Returns t r u → r.hasMore = false →
        (f.collect (draining requested start token) limit).Returns s
          ⟨eventsOf (rs ++ [r]), r.cursor, false⟩ u) ∧
      (∀ e u, (f.poll last requested start).Fails t e u →
        (f.collect (draining requested start token) limit).Fails s
          (if u.cancelled then .interrupted else .failed e) u) ∧
      ∀ o, (f.poll last requested start).outcome t = .error o →
        (f.collect (draining requested start token) limit).outcome s = .error o) ∧
    (∀ limit, ∃ rs last t, f.GoesOn requested start token s rs last t ∧
      (rs.length < limit ∧ f.Stops requested start last t ∨
        rs.length = limit ∧
          (f.collect (draining requested start token) limit).Fails s .unfinished t)) ∧
    ∀ left, f.Scripted left →
      (∀ rs last t, f.GoesOn requested start token s rs last t →
        rs.length ≤ leadingPages (left s.peer) ∧ left t.peer = (left s.peer).drop rs.length) ∧
      ((∀ rs last t, f.GoesOn requested start token s rs last t →
          ∃ r u, (f.poll last requested start).Returns t r u) →
        ∃ rs last t r u, f.GoesOn requested start token s rs last t ∧
          rs.length = leadingPages (left s.peer) ∧
          (f.poll last requested start).Returns t r u ∧ r.hasMore = false ∧
          left u.peer = (left s.peer).drop (rs.length + 1) ∧
          ∀ limit, rs.length < limit →
            (f.collect (draining requested start token) limit).Returns s
              ⟨eventsOf (rs ++ [r]), r.cursor, false⟩ u) := by
  refine ⟨fun limit ↦ ?_, fun rs last t hgoes limit hlimit ↦ ⟨fun r u hpoll hlast ↦
      returns_collect_of_goesOn hgoes hpoll hlast hlimit,
    fun e u hpoll ↦ fails_collect_of_goesOn hgoes hpoll hlimit,
    fun o hpoll ↦ overflow_collect_of_goesOn hgoes hpoll hlimit⟩,
    fun limit ↦ ?_, fun left hscript ↦ ⟨?_, fun hall ↦ ?_⟩⟩
  · rw [outcome_collect_succ]
    rcases (f.poll token requested start).outcome s with o | ⟨e | r, t⟩ <;> rfl
  · obtain ⟨rs, last, t, hgoes, hend⟩ := exists_goesOn f requested start limit token s
    refine ⟨rs, last, t, hgoes, hend.imp_right fun hlength ↦ ⟨hlength, ?_⟩⟩
    have houtcome := outcome_collect_of_goesOn hgoes 0
    rw [Nat.add_zero, hlength] at houtcome
    exact houtcome
  · intro rs last t hgoes
    obtain ⟨hleft, hleading⟩ := hscript.of_goesOn hgoes
    exact ⟨by omega, hleft⟩
  · obtain ⟨rs, last, t, r, u, hgoes, hlength, hpoll, hlast, hleft⟩ := hscript.exists_end hall
    exact ⟨rs, last, t, r, u, hgoes, hlength, hpoll, hlast, hleft, fun limit hlimit ↦
      returns_collect_of_goesOn hgoes hpoll hlast hlimit⟩

/-! ### A window of two pages in a script -/

/-- A feed of the token log whose pages are a script. -/
def scripted : Feed (List (Except RequestError ActivityPage)) where
  kind := .usage
  config := .standard
  source _ := do
    let pages := (← get).peer
    modify fun s ↦ { s with peer := pages.tail }
    Call.ofExcept (pages.headD (.ok .empty))
  directory _ _ := pure .absent

/-- The feed uses up its script page by page. -/
theorem scripted_scripted : scripted.Scripted id where
  asked _ s := ⟨{ s with peer := s.peer.tail }, rfl, rfl⟩
  resolved _ _ _ _ _ h := by
    cases h
    rfl

/-- The cursor behind a page of that feed. -/
def afterPage (given : Cursor) (page : ActivityPage) : Cursor :=
  ((scripted.opened given .epoch 0).observeAll (page.items.map (·.occurredAt))).advance
    page.nextPageToken

/-- A poll of that feed takes the first page, and nothing else happens to the session. -/
theorem returns_poll_scripted {token : String} {given : Cursor}
    (hdecode : Cursor.decode token = .ok given) (page : ActivityPage)
    (pages : List (Except RequestError ActivityPage)) :
    (scripted.poll token 0 (some .epoch)).Returns (.start (.ok page :: pages) .epoch)
      ⟨page.items.flatMap (·.usageEventsOrNone), (afterPage given page).encode,
        (afterPage given page).isMidWindow⟩ (.start pages .epoch) := by
  obtain ⟨contributions, t, hcontributions, hall, -⟩ :=
    exists_interpretsAll (f := scripted) (s := .start pages .epoch)
      (fun _ _ s hs ↦ ⟨_, s, rfl, hs⟩) page.items (scripted.opened given .epoch 0) rfl
  obtain ⟨rfl, rfl⟩ := hcontributions.eq_of_usage rfl
  rw [← List.flatMap_def] at hall
  exact returns_poll.2 ⟨given, .epoch, _, page, _, _, _, hdecode, returns_pure.2 ⟨rfl, rfl⟩, rfl,
    hall, rfl⟩

/-- An authorization of an application. -/
def appAuthorization (qualifier time app : String) : Activity :=
  ⟨⟨time, qualifier, "token", none⟩, ⟨some "jane@example.com", some "1"⟩,
    [⟨"auth", authorizeEvent,
      [⟨"client_id", some app, [], none⟩, ⟨"app_name", some app, [], none⟩]⟩]⟩

/-- A page that names another one. -/
def scriptedFirst : ActivityPage := ⟨[appAuthorization "1" "20" "mail"], some "second"⟩

/-- The page that it names. -/
def scriptedSecond : ActivityPage :=
  ⟨[appAuthorization "2" "10" "chat", appAuthorization "3" "30" "mail"], none⟩

/-- A session in which these two pages are the script. -/
def beforeScripted : Session (List (Except RequestError ActivityPage)) :=
  .start [.ok scriptedFirst, .ok scriptedSecond] .epoch

/-- The token between its two polls is accepted. -/
theorem decode_afterFirst : Cursor.decode (afterPage .initial scriptedFirst).encode =
    .ok (afterPage .initial scriptedFirst) := by
  have hplain : (afterPage .initial scriptedFirst).HasPlainTimes := by decide +kernel
  rw [Cursor.decode_encode, if_pos hplain]

/-- No poll of those two pages fails, and the second one ends the chain. -/
theorem goesOn_scripted {rs : List PollResult} {last : String}
    {t : Session (List (Except RequestError ActivityPage))}
    (hgoes : scripted.GoesOn 0 (some .epoch) "" beforeScripted rs last t) :
    ∃ r u, (scripted.poll last 0 (some .epoch)).Returns t r u ∧ (rs.length = 1 →
      (eventsOf (rs ++ [r])).map (·.id) = ["1", "2", "3"] ∧ u.peer = []) := by
  have hfirst := returns_poll_scripted Cursor.decode_empty scriptedFirst [.ok scriptedSecond]
  have hlast :
      (afterPage (afterPage .initial scriptedFirst) scriptedSecond).isMidWindow = false := by
    decide +kernel
  cases hgoes with
  | here => exact ⟨_, _, hfirst, nofun⟩
  | next hpoll _ hrest =>
    obtain ⟨hr, rfl⟩ := hpoll.unique hfirst
    -- The token is that of the first result; it is a long text and better left alone.
    have hdecode := decode_afterFirst
    rw [← show _ = (afterPage .initial scriptedFirst).encode from congrArg (·.cursor) hr] at hdecode
    have hsecond := returns_poll_scripted hdecode scriptedSecond []
    cases hrest with
    | here => exact ⟨_, _, hsecond, fun _ ↦ ⟨by rw [hr]; decide +kernel, rfl⟩⟩
    | next hpoll hmore _ =>
      rw [(hpoll.unique hsecond).1, hlast] at hmore
      cases hmore

/-- The events of both pages are collected, those of the first one first. -/
theorem collect_eq_polls_scripted :
    ∃ r u, (∀ limit, 1 < limit →
      (scripted.collect (draining 0 (some .epoch) "") limit).Returns beforeScripted r u) ∧
      r.events.map (·.id) = ["1", "2", "3"] ∧ r.hasMore = false ∧ u.peer = [] := by
  obtain ⟨-, -, -, hscript⟩ := collect_eq_polls scripted 0 (some .epoch) "" beforeScripted
  obtain ⟨rs, last, t, r, u, hgoes, hlength, hpoll, -, -, hcollect⟩ :=
    (hscript id scripted_scripted).2 fun rs last t hgoes ↦
      (goesOn_scripted hgoes).imp fun r ↦ .imp fun u h ↦ h.1
  obtain ⟨r', u', hpoll', hevents⟩ := goesOn_scripted hgoes
  obtain ⟨rfl, rfl⟩ := hpoll'.unique hpoll
  have hone : rs.length = 1 := hlength
  obtain ⟨hids, hpeer⟩ := hevents hone
  exact ⟨_, _, fun limit hlimit ↦ hcollect limit (hone ▸ hlimit), hids, rfl, hpeer⟩

end Feed

end AuditFeed
