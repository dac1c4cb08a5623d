import AuditFeed.Proofs.Feed.Continuation

/-!
# Where one window ends and the next one starts

A window is closed at an instant with all its nanoseconds, and the next one is asked for by a text
with three digits of the second. So what is asked for is not where the window was closed, but at
most a millisecond before it: `windows_adjoin` says that no time is left out between two windows and
that what is asked for twice is of that one millisecond.

## Two things that could go wrong

* The closing time goes through a token. The next poll knows it to the nanosecond, since what is
  written there is read back as it was (`startAt_of_closed`), and since a poll that follows another
  one had its token accepted (`Visit.hasPlainTimes_of_follows`). So the year of the closing time
  needs no hypothesis here.
* A fraction is cut where the query is written. It is cut towards the past before the epoch and in a
  leap second too (`Instant.cut_le`), since the nanoseconds of an instant never count backwards.
  Were it rounded to the nearest millisecond instead, an event of the last half of one could be
  missed.

## Where a window is closed

The closing time is the latest of the start of the window, of the latest time that was known when it
was opened, and of the times of all its activities (`closing_spec`). It need not be the time of any
activity. A window in which nothing happened is closed where it started, and the next one asks for
the same again.

The last example closes a window within a leap second, whose nanoseconds are above a second.

## Main statements

* `windows_adjoin`: the start that is sent for the next window, and by how much it is before the end
  of the last.
-/

namespace AuditFeed

namespace Instant

variable {t u : Instant}

/-- What is written is never later than what is meant. -/
theorem cut_le (p : Precision) (t : Instant) : t.cut p ≤ t := by
  refine le_def.2 (.inr ⟨rfl, ?_⟩)
  cases p <;> simp only [cut, Precision.keep]
  · exact Nat.le_refl _
  · exact Nat.div_mul_le_self _ _

/-- The span that is lost by milliseconds. -/
theorem since_cut_millis (t : Instant) : t.since (t.cut .millis) = (t.nanos % 1000000 : Nat) := by
  have hday : ¬ t.seconds % 86400 < t.seconds % 86400 := Int.lt_irrefl _
  have hnanos :
      (t.nanos : Int) - (t.nanos / 1000000 * 1000000 : Nat) = (t.nanos % 1000000 : Nat) := by
    omega
  simp only [since, cut, Precision.keep, hday, false_and, if_false, hnanos]
  rw [Int.sub_self, Int.add_zero, Int.zero_mul, Int.zero_add]

/-- Between the start of a millisecond and an instant of it, there is that millisecond only. -/
theorem millis_eq_of_cut_le (hle : t.cut .millis ≤ u) (hlt : u < t) :
    u.seconds = t.seconds ∧ u.nanos / 1000000 = t.nanos / 1000000 := by
  rw [le_def] at hle
  rw [lt_def] at hlt
  simp only [cut, Precision.keep] at hle
  omega

end Instant

/-- The start that a query asks for is the only one in its pairs, cut to milliseconds. -/
theorem ActivityQuery.startTime_mem_pairs_iff {q : ActivityQuery} {value : String} :
    ("startTime", value) ∈ q.pairs ↔ ∃ t, q.startTime = some t ∧ value = t.millisText := by
  have hpair (name : String) (v : Option String) (hname : "startTime" ≠ name) :
      ("startTime", value) ∉ pair name v := by
    cases v <;> simp [pair, hname]
  have hstart : ("startTime", value) ∈ pair "startTime" (q.startTime.map Instant.millisText) ↔
      ∃ t, q.startTime = some t ∧ value = t.millisText := by
    cases q.startTime <;> simp [pair]
  rw [pairs]
  simp only [List.mem_append, hpair "customerId" _ (by decide), hstart,
    hpair "pageToken" _ (by decide), hpair "eventName" _ (by decide), List.mem_singleton,
    Prod.mk.injEq, String.reduceEq, false_and, or_false, false_or]

namespace Feed

variable {ω : Type} {f : Feed ω}

/-- Where a poll follows another one, its token was accepted, so the times that the one before left
are of the years 0 to 9999. -/
theorem Visit.hasPlainTimes_of_follows {v w : Visit f} (h : w.token = v.result.cursor) :
    v.next.HasPlainTimes := by
  have hdecode := w.decodes
  rw [h, v.result_eq.1, Cursor.decode_encode] at hdecode
  by_contra hplain
  rw [if_neg hplain] at hdecode
  cases hdecode

/-- The poll after the one that closes a window asks for the start that it was handed in the
token. -/
theorem startTime_of_closed {w v : Visit f} {past : List (Visit f)} (hrun : IsRun (w :: v :: past))
    (hclosed : v.result.hasMore = false) :
    w.query.startTime = some (max (windowStart v past) (windowLatest v past)) := by
  obtain ⟨htoken, hpast⟩ := List.isChain_cons_cons.1 hrun
  have hlast : v.next.isMidWindow = false := by rw [← v.result_eq.2, hclosed]
  rw [Visit.query, Visit.given_eq_next htoken, (query_of_opened hlast w.begin w.requested).2,
    startAt_of_closed hpast hclosed]

/-- Where a window is closed is the latest of where it starts and of what was seen in it. -/
theorem closing_spec (v : Visit f) (past : List (Visit f)) :
    let m := max (windowStart v past) (windowLatest v past)
    m ∈ windowStart v past :: windowFloor v past :: windowTimes v past ∧
      ∀ t ∈ windowStart v past :: windowFloor v past :: windowTimes v past, t ≤ m := by
  intro m
  constructor
  · rcases Instant.max_mem (windowStart v past) (windowLatest v past) with h | h
    · exact List.mem_cons.2 (.inl h)
    · have hmem := Instant.latest_mem (windowFloor v past) (windowTimes v past)
      have hm : m = windowLatest v past := h
      exact List.mem_cons_of_mem _ (hm ▸ hmem)
  · have hbound := Instant.max_le_iff.1 (Instant.le_refl m)
    have hlatest := (Instant.latest_le_iff _ _ _).1 hbound.2
    rintro t (_ | ⟨_, _ | ⟨_, ht⟩⟩)
    · exact hbound.1
    · exact hlatest.1
    · exact hlatest.2 t ht

/-- **No gap between windows.** Let a poll of a run close a window and the next one, with the token
that it returned, open another. Let `m` be where the window was closed: the latest of its start, of
the latest time known when it was opened and of the times of all its activities. The next query has
one start time, which is sent as it is; it is a date and time of RFC 3339 and denotes an instant at
or before `m`, by less than a millisecond. So whatever is at or after `m` is asked for, and of what
is before `m` only what falls into the same millisecond. -/
theorem windows_adjoin {w v : Visit f} {past : List (Visit f)} (hrun : IsRun (w :: v :: past))
    (hclosed : v.result.hasMore = false) :
    let m := max (windowStart v past) (windowLatest v past)
    (m ∈ windowStart v past :: windowFloor v past :: windowTimes v past ∧
      ∀ t ∈ windowStart v past :: windowFloor v past :: windowTimes v past, t ≤ m) ∧
    ∃ text opening,
      (∀ value, ("startTime", value) ∈ w.query.pairs ↔ value = text) ∧
      (∀ (p : Provider ω) request, p.Lists w.query request →
        ("startTime", text) ∈ request.url.pairs) ∧
      Instant.IsDateTime text.toList opening.civil 0 ∧ Instant.parse? text = some opening ∧
      opening ≤ m ∧ 0 ≤ m.since opening ∧ m.since opening < 1000000 ∧
      (∀ u, m ≤ u → opening ≤ u) ∧
      ∀ u, opening ≤ u → u < m →
        u.seconds = m.seconds ∧ u.nanos / 1000000 = m.nanos / 1000000 := by
  intro m
  obtain ⟨htoken, hpast⟩ := List.isChain_cons_cons.1 hrun
  have hplain : m.HasPlainYear :=
    (Visit.hasPlainTimes_of_follows htoken).2 m (startAt_of_closed hpast hclosed)
  have hquery : w.query.startTime = some m := startTime_of_closed hrun hclosed
  have hpairs (value : String) : ("startTime", value) ∈ w.query.pairs ↔ value = m.millisText := by
    rw [ActivityQuery.startTime_mem_pairs_iff, hquery]
    constructor
    · rintro ⟨t, ht, hvalue⟩
      rwa [Option.some.inj ht]
    · exact fun hvalue ↦ ⟨m, rfl, hvalue⟩
  refine ⟨closing_spec v past, m.millisText, m.cut .millis, hpairs, ?_, ?_,
    Instant.parse?_millisText hplain, Instant.cut_le _ m, ?_, ?_, ?_,
    fun u hle hlt ↦ Instant.millis_eq_of_cut_le hle hlt⟩
  · intro p request hlists
    obtain ⟨url, -, hurl, -⟩ := hlists.pairs_eq
    rw [hurl]
    exact List.mem_append_right _ ((hpairs _).2 rfl)
  · rw [Instant.millisText, String.toList_ofList]
    exact Instant.isDateTime_chars .millis hplain
  · rw [Instant.since_cut_millis]
    exact Int.natCast_nonneg _
  · rw [Instant.since_cut_millis]
    exact Int.ofNat_lt.2 (Nat.mod_lt _ (by decide))
  · exact fun u hu ↦ Instant.le_trans (Instant.cut_le _ m) hu

/-! ### A window that closes in a leap second -/

/-- A page with one record, half a millisecond before the end of the leap second of 2016. -/
def leapPage : ActivityPage :=
  ⟨[bareAuthorization "2016-12-31T23:59:60.9995Z"], none⟩

/-- A feed whose pages are that one. -/
def leapFeed : Feed Unit where
  kind := .usage
  config := .standard
  source _ := pure leapPage
  directory _ _ := pure .absent

/-- The record of the leap second has no events, and its time is noted. -/
theorem interpretAll_leapPage (c : Cursor) :
    (leapFeed.interpretAll c leapPage.items).Returns (.start () .epoch)
      ([], c.observeAll (leapPage.items.map (·.occurredAt))) (.start () .epoch) := by
  rfl

/-- A start that is given is where the feed begins. -/
theorem begins_leapFeed (s : Session Unit) :
    (leapFeed.defaultStart (some .epoch)).Returns s .epoch s :=
  Call.returns_pure.2 ⟨rfl, rfl⟩

/-- The poll of that feed with a token. -/
def visitLeap (token : String) (given : Cursor) (h : Cursor.decode token = .ok given) :
    Visit leapFeed :=
  let opened := leapFeed.opened given .epoch 0
  let seen := opened.observeAll (leapPage.items.map (·.occurredAt))
  let s := Session.start () .epoch
  { token, requested := 0, start := some .epoch, before := s, given, decodes := h, begin := .epoch
    asked := s, begins := begins_leapFeed s
    page := leapPage, fetched := s, fetches := Call.returns_pure.2 ⟨rfl, rfl⟩
    result := ⟨[], (seen.advance none).encode, (seen.advance none).isMidWindow⟩
    after := s
    returns := returns_poll.2 ⟨given, .epoch, s, leapPage, s, [], seen, h, begins_leapFeed s,
      Call.returns_pure.2 ⟨rfl, rfl⟩, interpretAll_leapPage opened, rfl⟩ }

/-- The poll that closes the window. -/
def closingLeap : Visit leapFeed :=
  visitLeap "" .initial Cursor.decode_empty

/-- The token between its two polls is accepted. -/
theorem decode_closingLeap : Cursor.decode closingLeap.result.cursor = .ok closingLeap.next := by
  have hplain : closingLeap.next.HasPlainTimes := by decide +kernel
  rw [closingLeap.result_eq.1, Cursor.decode_encode, if_pos hplain]

/-- The poll that opens the next one. -/
def openingLeap : Visit leapFeed :=
  visitLeap closingLeap.result.cursor closingLeap.next decode_closingLeap

/-- The next window starts in the leap second, and before the record of it. -/
theorem windows_adjoin_leapSecond :
    IsRun [openingLeap, closingLeap] ∧ closingLeap.result.hasMore = false ∧
      ("startTime", "2016-12-31T23:59:60.999Z") ∈ openingLeap.query.pairs ∧
      ∃ opening m, Instant.parse? "2016-12-31T23:59:60.999Z" = some opening ∧
        (∀ t ∈ closingLeap.times, t ≤ m) ∧ opening ≤ m ∧ m.since opening < 1000000 := by
  have hrun : IsRun [openingLeap, closingLeap] := List.isChain_pair.2 rfl
  have hclosed : closingLeap.result.hasMore = false := by decide +kernel
  have hsent : ("startTime", "2016-12-31T23:59:60.999Z") ∈ openingLeap.query.pairs := by
    decide +kernel
  obtain ⟨⟨-, hbound⟩, text, opening, hpairs, -, -, hread, hle, -, hlt, -⟩ :=
    windows_adjoin hrun hclosed
  obtain rfl := (hpairs _).1 hsent
  refine ⟨hrun, hclosed, hsent, opening, _, hread, fun t ht ↦ hbound t ?_, hle, hlt⟩
  exact List.mem_cons_of_mem _ (List.mem_cons_of_mem _ ht)

end Feed

end AuditFeed
