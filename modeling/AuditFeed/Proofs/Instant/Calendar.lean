import AuditFeed.Instant.Calendar

/-!
# Days and dates

The date of a day is a date of the calendar and is that day's (`Calendar.toDays_ofDays`), so a day
is read back from its date, and an instant from what calendar and clock show at it
(`Instant.ofCivil?_civil`).

## Finding the date

The year is found by an estimate and one correction, and `Calendar.yearOf_spec` says that the
correction is enough: the estimate is off by at most one because the mean length of a year is exact
over 400 years. The month is found by walking the lengths, which `Calendar.monthAndDay_spec` inverts
for any list of lengths.

## Finding the instant

Hours, minutes and seconds are digits of one number, and the date is the rest. Second 60 stands for
the nanoseconds of a leap second, which the clock counts on: so it is shown in leap seconds only
(`Instant.second_civil_eq_sixty_iff`), and what is read of it is what was shown.

A reading may also be of a time beyond the range of instants: its bounds are asked for as a
hypothesis in `Instant.ofCivil?_eq`, and every reading of an instant has them.

## Years of four digits

`Instant.HasPlainYear` is where a written time has four digits for its year. It is decidable by the
seconds (`Instant.hasPlainYear_iff`).

## Main statements

* `Calendar.toDays_ofDays`, `Calendar.isValid_ofDays`: days and dates.
* `Instant.ofCivil?_civil`: an instant is read back from what is shown at it.
-/

namespace AuditFeed.Calendar

/-! ### Years -/

/-- A year has 365 days, and one more in a leap year. -/
theorem daysBeforeYear_succ (year : Int) :
    daysBeforeYear (year + 1) = daysBeforeYear year + if isLeap year then 366 else 365 := by
  have hleap : isLeap year = true ↔ year % 4 = 0 ∧ (year % 100 ≠ 0 ∨ year % 400 = 0) := by
    simp [isLeap]
  unfold daysBeforeYear
  split
  · rename_i h
    have := hleap.1 h
    omega
  · rename_i h
    have := mt hleap.2 h
    omega

/-- **A day falls in its year.** -/
theorem yearOf_spec (day : Int) :
    daysBeforeYear (Date.yearOf day) ≤ day ∧ day < daysBeforeYear (Date.yearOf day + 1) := by
  have hlow : daysBeforeYear (day * 400 / 146097 - 1) ≤ day := by
    unfold daysBeforeYear
    omega
  have hhigh : day < daysBeforeYear (day * 400 / 146097 + 1 + 1) := by
    unfold daysBeforeYear
    omega
  simp only [Date.yearOf]
  split
  · rename_i h
    exact ⟨hlow, by rwa [Int.sub_add_cancel]⟩
  split
  · rename_i h
    exact ⟨h, hhigh⟩
  · rename_i h h'
    exact ⟨by omega, by omega⟩

/-! ### Months -/

/-- The days of months of these lengths. -/
def totalDays (lengths : List Nat) : Nat :=
  lengths.foldl (· + ·) 0

@[simp] theorem totalDays_nil : totalDays [] = 0 := rfl

/-- The days of the first month, and those of the others. -/
@[simp] theorem totalDays_cons (n : Nat) (rest : List Nat) :
    totalDays (n :: rest) = n + totalDays rest := by
  rw [totalDays, totalDays, ← List.sum_eq_foldl_nat, ← List.sum_eq_foldl_nat, List.sum_cons]

/-- **A day of the year falls in its month**: walking the lengths stops at the month whose days
have begun and are not over. -/
theorem monthAndDay_spec (lengths : List Nat) : ∀ month day, day < totalDays lengths →
    ∃ k n, lengths[k]? = some n ∧ totalDays (lengths.take k) ≤ day ∧
      day < totalDays (lengths.take k) + n ∧
      Date.monthAndDay month lengths day = (month + k, day - totalDays (lengths.take k) + 1) := by
  induction lengths with
  | nil =>
    intro month day h
    simp at h
  | cons n rest ih =>
    intro month day h
    rw [totalDays_cons] at h
    rw [Date.monthAndDay]
    split
    · rename_i hday
      exact ⟨0, n, rfl, Nat.zero_le _, by simpa using hday, by simp⟩
    · rename_i hday
      obtain ⟨k, m, hget, hlow, hhigh, heq⟩ := ih (month + 1) (day - n) (by omega)
      refine ⟨k + 1, m, hget, ?_, ?_, ?_⟩
      · rw [List.take_succ_cons, totalDays_cons]
        omega
      · rw [List.take_succ_cons, totalDays_cons]
        omega
      · rw [heq, List.take_succ_cons, totalDays_cons, Prod.mk.injEq]
        exact ⟨by omega, by omega⟩

/-- The months of a year make up its days. -/
theorem totalDays_monthLengths (leap : Bool) :
    totalDays (monthLengths leap) = if leap then 366 else 365 := by
  cases leap <;> rfl

/-- The days before a month are those of the months before it. -/
theorem daysBeforeMonth_eq_totalDays (leap : Bool) (month : Nat) :
    daysBeforeMonth leap month = totalDays ((monthLengths leap).take (month - 1)) := rfl

/-! ### Dates -/

/-- The parts of the date of a day: a year, a month of that year and a day of that month. -/
theorem ofDays_spec (days : Int) :
    ∃ k n, (monthLengths (isLeap (Date.ofDays days).year))[k]? = some n ∧
      (Date.ofDays days).year = Date.yearOf (days + epochDay) ∧
      (Date.ofDays days).month = k + 1 ∧ 1 ≤ (Date.ofDays days).day ∧ (Date.ofDays days).day ≤ n ∧
      (Date.ofDays days).toDays = days := by
  obtain ⟨hlow, hhigh⟩ := yearOf_spec (days + epochDay)
  rw [daysBeforeYear_succ] at hhigh
  have hday : (days + epochDay - daysBeforeYear (Date.yearOf (days + epochDay))).toNat <
      totalDays (monthLengths (isLeap (Date.yearOf (days + epochDay)))) := by
    rw [totalDays_monthLengths]
    by_cases hleap : isLeap (Date.yearOf (days + epochDay)) = true
    · rw [if_pos hleap] at hhigh ⊢
      omega
    · rw [if_neg hleap] at hhigh ⊢
      omega
  -- Within its year the day is found by the walk over the months.
  obtain ⟨k, n, hget, hk, hn, heq⟩ := monthAndDay_spec _ 1 _ hday
  have hdate : Date.ofDays days = ⟨Date.yearOf (days + epochDay), 1 + k,
      (days + epochDay - daysBeforeYear (Date.yearOf (days + epochDay))).toNat -
        totalDays ((monthLengths (isLeap (Date.yearOf (days + epochDay)))).take k) + 1⟩ := by
    simp only [Date.ofDays, heq]
  rw [hdate]
  refine ⟨k, n, hget, rfl, Nat.add_comm 1 k, Nat.succ_pos _, ?_, ?_⟩
  · show _ + 1 ≤ n
    omega
  simp only [Date.toDays, daysBeforeMonth_eq_totalDays, Nat.add_sub_cancel_left]
  omega

/-- **The date of a day is that day's.** -/
theorem toDays_ofDays (days : Int) : (Date.ofDays days).toDays = days := by
  obtain ⟨_, _, _, _, _, _, _, h⟩ := ofDays_spec days
  exact h

/-- The calendar has the date of every day. -/
theorem isValid_ofDays (days : Int) : (Date.ofDays days).isValid = true := by
  obtain ⟨k, n, hget, -, hmonth, hone, hday, -⟩ := ofDays_spec days
  have hk : k < 12 := by
    have := (List.getElem?_eq_some_iff.1 hget).1
    simpa [monthLengths] using this
  rw [Date.isValid, hmonth, Nat.add_sub_cancel, hget, Option.getD_some]
  simp only [Bool.and_eq_true, decide_eq_true_eq]
  exact ⟨⟨⟨by omega, by omega⟩, hone⟩, hday⟩

theorem month_ofDays_le (days : Int) : (Date.ofDays days).month ≤ 12 := by
  have h := isValid_ofDays days
  simp only [Date.isValid, Bool.and_eq_true, decide_eq_true_eq] at h
  exact h.1.1.2

theorem day_ofDays_le (days : Int) : (Date.ofDays days).day ≤ 31 := by
  obtain ⟨k, n, hget, -, -, -, hday, -⟩ := ofDays_spec days
  have hn : n ∈ monthLengths (isLeap (Date.ofDays days).year) := List.mem_of_getElem? hget
  have hle : ∀ leap, ∀ m ∈ monthLengths leap, m ≤ 31 := by decide
  exact Nat.le_trans hday (hle _ n hn)

/-- **The years of four digits** are the days from the first of the year 0 to the last of 9999. -/
theorem year_ofDays_mem_iff (days : Int) :
    0 ≤ (Date.ofDays days).year ∧ (Date.ofDays days).year ≤ 9999 ↔
      -719528 ≤ days ∧ days ≤ 2932896 := by
  obtain ⟨hlow, hhigh⟩ := yearOf_spec (days + epochDay)
  obtain ⟨_, _, _, hyear, _⟩ := ofDays_spec days
  rw [hyear]
  simp only [daysBeforeYear, epochDay] at hlow hhigh ⊢
  omega

end AuditFeed.Calendar

namespace AuditFeed.Instant

open Calendar

/-- What calendar and clock show is within their bounds, a second 60 included. -/
theorem civil_bounds (t : Instant) :
    t.civil.date.isValid = true ∧ t.civil.hour < 24 ∧ t.civil.minute < 60 ∧
      t.civil.second ≤ 60 ∧ t.civil.nanos < 1000000000 := by
  refine ⟨isValid_ofDays _, ?_, ?_, ?_, ?_⟩ <;> simp only [civil]
  · omega
  · omega
  · split <;> omega
  · omega

/-- Second 60 is shown in leap seconds only. -/
theorem second_civil_eq_sixty_iff (t : Instant) :
    t.civil.second = 60 ↔ 1000000000 ≤ t.nanos := by
  have hl := t.leap
  simp only [civil]
  split
  · rename_i h
    have := hl h
    omega
  · omega

/-- The seconds after the epoch that calendar and clock show, without the one of a leap second. -/
def shownSeconds (c : Civil) : Int :=
  c.date.toDays * 86400 + (c.hour * 3600 + c.minute * 60 + min c.second 59 : Nat)

/-- A reading within the bounds of calendar and clock, of a time of the range, is that of the
instant with these parts, if there is one. -/
theorem ofCivil?_eq {c : Civil} (offset : Int) (hdate : c.date.isValid = true) (hh : c.hour < 24)
    (hmi : c.minute < 60) (hs : c.second ≤ 60) (hnanos : c.nanos < 1000000000)
    (hrange : -8334601228800 ≤ shownSeconds c ∧ shownSeconds c ≤ 8210266876799) :
    ofCivil? c offset =
      ofParts? (shownSeconds c - offset) (c.nanos + if c.second = 60 then 1000000000 else 0) := by
  have hbounds : (c.date.isValid && c.hour < 24 && c.minute < 60 && c.second ≤ 60 &&
      c.nanos < 1000000000) = true := by
    simp only [hdate, hh, hmi, hs, hnanos, decide_true, Bool.and_self]
  have hshown : ofSeconds? (shownSeconds c) =
      some ⟨shownSeconds c, 0, hrange, by omega, by omega⟩ := ofParts?_eq_some_iff.2 ⟨rfl, rfl⟩
  rw [ofCivil?, hbounds]
  show (do
    discard (ofSeconds? (shownSeconds c))
    ofParts? _ _) = _
  rw [hshown]
  rfl

/-- What is shown at an instant are its seconds. -/
theorem shownSeconds_civil (t : Instant) : shownSeconds t.civil = t.seconds := by
  have hl := t.leap
  simp only [shownSeconds, civil, toDays_ofDays]
  split
  · rename_i h
    have := hl h
    omega
  · omega

/-- What is shown of the nanoseconds, and second 60 for those of a leap second. -/
theorem nanos_civil (t : Instant) :
    t.civil.nanos + (if t.civil.second = 60 then 1000000000 else 0) = t.nanos := by
  have hn := t.nanos_lt
  have hfraction : t.civil.nanos = t.nanos % 1000000000 := rfl
  by_cases h : 1000000000 ≤ t.nanos
  · rw [if_pos (t.second_civil_eq_sixty_iff.2 h)]
    omega
  · rw [if_neg (mt t.second_civil_eq_sixty_iff.1 h)]
    omega

/-- A clock that is ahead of UTC shows a time that much earlier. -/
theorem ofCivil?_civil_ahead (t : Instant) (offset : Int) :
    ofCivil? t.civil offset = ofParts? (t.seconds - offset) t.nanos := by
  obtain ⟨hdate, hhour, hminute, hsecond, hnanos⟩ := t.civil_bounds
  have hrange : -8334601228800 ≤ shownSeconds t.civil ∧ shownSeconds t.civil ≤ 8210266876799 := by
    rw [shownSeconds_civil]
    exact t.inRange
  rw [ofCivil?_eq offset hdate hhour hminute hsecond hnanos hrange, shownSeconds_civil, nanos_civil]

/-- **An instant is read back from what calendar and clock show at it**, leap seconds included. -/
theorem ofCivil?_civil (t : Instant) : ofCivil? t.civil 0 = some t := by
  rw [ofCivil?_civil_ahead, Int.sub_zero, ofParts?_self]

/-- Does the year of an instant have four digits? -/
def HasPlainYear (t : Instant) : Prop :=
  0 ≤ t.civil.date.year ∧ t.civil.date.year ≤ 9999

/-- **The instants of the years 0 to 9999**, by their seconds. -/
theorem hasPlainYear_iff {t : Instant} :
    t.HasPlainYear ↔ -62167219200 ≤ t.seconds ∧ t.seconds ≤ 253402300799 := by
  rw [HasPlainYear, civil, year_ofDays_mem_iff]
  omega

instance (t : Instant) : Decidable t.HasPlainYear :=
  decidable_of_iff _ hasPlainYear_iff.symm

end AuditFeed.Instant
