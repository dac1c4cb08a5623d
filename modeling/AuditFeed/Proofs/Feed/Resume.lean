import AuditFeed.Proofs.Feed.Windows

/-!
# Which returned tokens can be used

A cursor's times are written by a writer that knows every year and read by a reader that knows the
years 0 to 9999. Three sources feed them: the cursor that is given, the start that the caller asks
for, and the times of the activities, which may also be whole seconds of any size. So a successful
poll can return a token that no later poll accepts, and one odd record is enough.

## The exact condition

`token_accepted_iff` says exactly when that does not happen, by what is in the cursor when the poll
ends (`Visit.KeepsPlainYears`). A window that goes on keeps two times, and both have to be of the
years that can be read. One that is closed keeps the later of the two only, so a start before the
year 0 does no harm if something was seen after it.

Since the years 0 to 9999 are one stretch of time, nothing goes wrong where all that reaches the
cursor is within it (`Visit.keepsPlainYears_of_plain`). That is what a caller can look at before a
poll; the condition itself is about what the poll leaves.

## What a refusal costs

A token that is refused is refused before anything else is looked at. Each later poll with it fails
in the same way, whatever start and size it asks for, and leaves the session as it is, so the feed
is at its end unless its reader starts anew. `token_refused_far` is a feed that gets there with one
record, of the first second of the year 10000.

## Main statements

* `token_accepted_iff`: when the token of a successful poll is accepted, and what it is refused with
  otherwise.
-/

namespace AuditFeed.Instant

/-- The years 0 to 9999 are one stretch: the later of two of their times is one of them. -/
theorem hasPlainYear_max {s t : Instant} (hs : s.HasPlainYear) (ht : t.HasPlainYear) :
    (max s t).HasPlainYear := by
  rcases max_mem s t with h | h
  · rwa [h]
  · rwa [h]

/-- So is the latest of many. -/
theorem hasPlainYear_latest {t : Instant} {ts : List Instant} (ht : t.HasPlainYear)
    (hts : ∀ s ∈ ts, s.HasPlainYear) : (t.latest ts).HasPlainYear := by
  rcases List.mem_cons.1 (latest_mem t ts) with h | h
  · rwa [h]
  · exact hts _ h

end AuditFeed.Instant

namespace AuditFeed.Feed

open Call

variable {ω : Type} {f : Feed ω}

namespace Visit

/-- Are the times that a poll leaves in the cursor of the years 0 to 9999? A window that goes on
keeps its start and its latest time, and one that is closed only the later of them. -/
def KeepsPlainYears (v : Visit f) : Prop :=
  if v.result.hasMore then v.startAt.HasPlainYear ∧ (v.latest.latest v.times).HasPlainYear
  else (max v.startAt (v.latest.latest v.times)).HasPlainYear

/-- The times of the cursor that a poll leaves are the ones that are named there. -/
theorem hasPlainTimes_next_iff (v : Visit f) : v.next.HasPlainTimes ↔ v.KeepsPlainYears := by
  rcases v.next_cases with ⟨hmore, hstart, hlatest⟩ | ⟨hlast, hstart, hlatest⟩
  · rw [KeepsPlainYears, if_pos (v.hasMore_iff.2 hmore), Cursor.HasPlainTimes, hstart, hlatest]
    simp [and_comm]
  · rw [KeepsPlainYears, v.hasMore_eq_false_iff.2 hlast, Cursor.HasPlainTimes, hstart, hlatest]
    simp

/-- Where no time outside the years 0 to 9999 reaches the cursor, none leaves it. -/
theorem keepsPlainYears_of_plain {v : Visit f} (hgiven : v.given.HasPlainTimes)
    (hbegin : v.begin.HasPlainYear) (htimes : ∀ t ∈ v.times, t.HasPlainYear) :
    v.KeepsPlainYears := by
  have hstart : v.startAt.HasPlainYear := by
    rw [startAt]
    cases h : v.given.startAt with
    | none => exact hbegin
    | some t => exact hgiven.2 t h
  have hfloor : v.latest.HasPlainYear := by
    rw [latest]
    cases h : v.given.latestSeen with
    | none => exact hstart
    | some t => exact hgiven.1 t h
  have hlatest := Instant.hasPlainYear_latest hfloor htimes
  rw [KeepsPlainYears]
  split
  · exact ⟨hstart, hlatest⟩
  · exact Instant.hasPlainYear_max hstart hlatest

/-- **A cursor of plain years comes through its token.** -/
theorem decode_of_keepsPlainYears {v : Visit f} (h : v.KeepsPlainYears) :
    Cursor.decode v.result.cursor = .ok v.next := by
  rw [v.result_eq.1, Cursor.decode_encode, if_pos (v.hasPlainTimes_next_iff.2 h)]

/-- Any other one does not. -/
theorem decode_of_not_keepsPlainYears {v : Visit f} (h : ¬ v.KeepsPlainYears) :
    Cursor.decode v.result.cursor = .error Cursor.misfit := by
  rw [v.result_eq.1, Cursor.decode_encode, if_neg (mt v.hasPlainTimes_next_iff.1 h)]

end Visit

/-- **When the token of a successful poll is accepted.** It is accepted exactly if the window's
start and latest time, or at its end the later of them, are of the years 0 to 9999; this is so
where all times that the poll is given and reads are. Otherwise every poll with the token, whatever
it asks for, is refused as one with an invalid argument and leaves the session as it is. -/
theorem token_accepted_iff (v : Visit f) :
    ((∃ c, Cursor.decode v.result.cursor = .ok c) ↔ v.KeepsPlainYears) ∧
    (v.given.HasPlainTimes ∧ v.begin.HasPlainYear ∧ (∀ t ∈ v.times, t.HasPlainYear) →
      v.KeepsPlainYears) ∧
    (¬ v.KeepsPlainYears → Cursor.misfit.kind = .invalidArgument ∧
      ∀ requested start s, (f.poll v.result.cursor requested start).Fails s Cursor.misfit s) := by
  refine ⟨⟨fun ⟨c, hc⟩ ↦ ?_, fun h ↦ ⟨v.next, Visit.decode_of_keepsPlainYears h⟩⟩,
    fun ⟨hgiven, hbegin, htimes⟩ ↦ Visit.keepsPlainYears_of_plain hgiven hbegin htimes,
    fun h ↦ ⟨rfl, fun requested start s ↦ ?_⟩⟩
  · by_contra h
    rw [Visit.decode_of_not_keepsPlainYears h] at hc
    cases hc
  · exact fails_poll_of_decode (Visit.decode_of_not_keepsPlainYears h) requested start s

/-! ### A record of the year 10000 -/

/-- A page with one record, of the first second of the year 10000. -/
def farPage : ActivityPage :=
  ⟨[⟨⟨"253402300800", "1", "admin", none⟩, ⟨some "jane@example.com", some "1122"⟩, []⟩], none⟩

/-- A feed whose pages hold that record. -/
def farFeed : Feed Unit where
  kind := .admin
  config := .standard
  source _ := pure farPage
  directory _ _ := pure .absent

/-- 2024-03-15T10:00:00Z. -/
def plainStart : Instant :=
  (Instant.ofSeconds? 1710496800).getD .epoch

/-- The record of the far year has no events, and its time is noted. -/
theorem interpretAll_farPage (c : Cursor) (s : Session Unit) :
    (farFeed.interpretAll c farPage.items).Returns s
      ([], c.observeAll (farPage.items.map (·.occurredAt))) s := by
  rfl

/-- The first poll of that feed. -/
def farVisit : Visit farFeed :=
  let opened := farFeed.opened .initial plainStart 0
  let seen := opened.observeAll (farPage.items.map (·.occurredAt))
  let s := Session.start () plainStart
  { token := "", requested := 0, start := some plainStart, before := s
    given := .initial, decodes := Cursor.decode_empty
    begin := plainStart, asked := s, begins := returns_pure.2 ⟨rfl, rfl⟩
    page := farPage, fetched := s, fetches := returns_pure.2 ⟨rfl, rfl⟩
    result := ⟨[], (seen.advance none).encode, (seen.advance none).isMidWindow⟩, after := s
    returns := returns_poll.2 ⟨.initial, plainStart, s, farPage, s, [], seen, Cursor.decode_empty,
      returns_pure.2 ⟨rfl, rfl⟩, returns_pure.2 ⟨rfl, rfl⟩, interpretAll_farPage opened s, rfl⟩ }

/-- **One odd record ends a feed.** The poll that reads it returns, and its token is refused from
then on. -/
theorem token_refused_far :
    ∃ (s : Session Unit) (r : PollResult),
      (farFeed.poll "" 0 (some plainStart)).Returns s r s ∧
      Cursor.decode r.cursor = .error Cursor.misfit ∧
      Cursor.misfit.kind = .invalidArgument ∧
      (farFeed.poll r.cursor 0 (some plainStart)).Fails s Cursor.misfit s := by
  have hfar : ¬ farVisit.KeepsPlainYears := by
    rw [← farVisit.hasPlainTimes_next_iff]
    decide +kernel
  have hdecode := Visit.decode_of_not_keepsPlainYears hfar
  exact ⟨farVisit.before, farVisit.result, farVisit.returns, hdecode, rfl,
    fails_poll_of_decode hdecode 0 (some plainStart) farVisit.before⟩

end AuditFeed.Feed
