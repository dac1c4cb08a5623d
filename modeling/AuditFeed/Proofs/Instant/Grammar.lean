import AuditFeed.Proofs.Instant.Rfc3339

/-!
# What the strict reader reads

The strict reader reads every text of RFC 3339. Here is the other direction: it reads no other text,
but for one liberty that it takes (`Instant.parseChars?_eq_some_iff`). A negative offset may be
written with the minus sign, where RFC 3339 knows the hyphen only; `Instant.minusSigns` lists the
two.

## What scanners take

`Scan.Reads` says of a scanner what the parts are that it takes off the front of a text, so a
scanner that is put together from others is opened once, by taking the parts of its parts
(`Scan.bind_eq_some_iff`). Each field has its own predicate already, from the grammar, and the
statement for the whole is that the text is put together from them.

## Every timestamp denotes an instant

A text of the grammar has a date that the calendar has and a time of day, and four digits of the
year keep it far from the bounds of the range of instants, so it always denotes one
(`Instant.IsTimestamp.exists_ofCivil?`). A zone of less than a day does not lead out of the range
either. The bounds are generous: nothing is gained from exact ones.

## Main statements

* `Instant.exists_isTimestamp_of_parseChars?`: what is read is a timestamp.
* `Instant.IsTimestamp.exists_ofCivil?`: every timestamp denotes an instant.
* `Instant.parseChars?_eq_some_iff`: what the strict reader reads.
-/

namespace AuditFeed.Text

namespace Scan

variable {α β : Type}

/-- What a sequence reads is read by its parts, one behind the other. -/
theorem bind_eq_some_iff {p : Scan α} {f : α → Scan β} {s rest : List Char} {b : β} :
    (p >>= f) s = some (b, rest) ↔
      ∃ a middle, p s = some (a, middle) ∧ f a middle = some (b, rest) := by
  show (p s).bind (fun r ↦ f r.1 r.2) = some (b, rest) ↔ _
  rw [Option.bind_eq_some_iff, Prod.exists]

/-- A scanner takes parts off the front of a text that satisfy `P`, each with its value. -/
def Reads (p : Scan α) (P : List Char → α → Prop) : Prop :=
  ∀ s a rest, p s = some (a, rest) → ∃ part, s = part ++ rest ∧ P part a

theorem reads_char (c : Char) : (char c).Reads fun part _ ↦ part = [c] := by
  rintro s a rest h
  cases s with
  | nil => cases h
  | cons d s =>
    rw [char] at h
    split at h
    · rename_i hc
      cases h
      exact ⟨[d], rfl, by rw [hc]⟩
    · cases h

/-- One of these characters is taken off. -/
theorem reads_oneOf (cs : List Char) : (oneOf cs).Reads fun part _ ↦ ∃ c ∈ cs, part = [c] := by
  rintro s a rest h
  cases s with
  | nil => cases h
  | cons d s =>
    rw [oneOf] at h
    split at h
    · rename_i hd
      cases h
      exact ⟨[d], rfl, d, hd, rfl⟩
    · cases h

/-- The digits that are read are all of them that are in front. -/
theorem reads_digits : (digits 1 none).Reads fun part ds ↦
    part = ds ∧ ds ≠ [] ∧ ∀ d ∈ ds, isDigit d = true := by
  rintro s ds rest h
  simp only [digits] at h
  split at h
  · rename_i hlength
    cases h
    exact ⟨s.takeWhile isDigit,
      (List.prefix_iff_eq_append.1 (List.takeWhile_prefix isDigit)).symm, rfl,
      List.ne_nil_of_length_pos hlength, List.all_eq_true.1 List.all_takeWhile⟩
  · cases h

/-- A number of a fixed width is a field of that width. -/
theorem reads_number (width : Nat) : (number width (some width)).Reads (IsField width) := by
  rintro s n rest h
  rw [number] at h
  obtain ⟨ds, middle, hdigits, hvalue⟩ := bind_eq_some_iff.1 h
  cases hvalue
  simp only [digits] at hdigits
  split at hdigits
  · rename_i hwidth
    cases hdigits
    have hrun : (s.take width).takeWhile isDigit <+: s.take width := List.takeWhile_prefix isDigit
    have hlength := Nat.le_trans hrun.length_le (List.length_take_le width s)
    exact ⟨(s.take width).takeWhile isDigit,
      (List.prefix_iff_eq_append.1 (hrun.trans (List.take_prefix width s))).symm,
      Nat.le_antisymm hlength hwidth, List.all_eq_true.1 List.all_takeWhile, rfl⟩
  · cases hdigits

end Scan

end AuditFeed.Text

namespace AuditFeed.Instant

open Calendar Text

/-! ### Times that are read -/

/-- A point with digits behind it is a fraction, and so is nothing. -/
theorem reads_scanFraction : Scan.Reads scanFraction IsFraction := by
  rintro s nanos rest h
  rw [scanFraction] at h
  obtain ⟨_, _, hget, h⟩ := Scan.bind_eq_some_iff.1 h
  cases hget
  split at h
  · obtain ⟨_, _, hset, h⟩ := Scan.bind_eq_some_iff.1 h
    cases hset
    obtain ⟨ds, _, hdigits, hvalue⟩ := Scan.bind_eq_some_iff.1 h
    cases hvalue
    obtain ⟨_, rfl, rfl, hne, hds⟩ := Scan.reads_digits _ _ _ hdigits
    exact ⟨'.' :: _, rfl, .point hne hds⟩
  · cases h
    exact ⟨[], rfl, .none⟩

/-- Hours and minutes, two digits each, with a colon between them. -/
theorem reads_scanOffsetDigits : (scanOffsetDigits (Scan.char ':')).Reads fun part n ↦
    ∃ h m hours minutes, part = h ++ ':' :: m ∧ IsField 2 h hours ∧ IsField 2 m minutes ∧
      minutes < 60 ∧ n = (hours * 3600 + minutes * 60 : Nat) := by
  rintro s n rest h
  rw [scanOffsetDigits] at h
  obtain ⟨hours, _, hhours, h⟩ := Scan.bind_eq_some_iff.1 h
  obtain ⟨_, _, hcolon, h⟩ := Scan.bind_eq_some_iff.1 h
  obtain ⟨minutes, _, hminutes, hvalue⟩ := Scan.bind_eq_some_iff.1 h
  cases hvalue
  rw [scanSixtieths] at hminutes
  obtain ⟨_, _, hnumber, hsixty⟩ := Scan.bind_eq_some_iff.1 hminutes
  split at hsixty
  · rename_i hlt
    cases hsixty
    obtain ⟨hs, rfl, hh⟩ := Scan.reads_number 2 _ _ _ hhours
    obtain ⟨_, rfl, rfl⟩ := Scan.reads_char ':' _ _ _ hcolon
    obtain ⟨ms, rfl, hm⟩ := Scan.reads_number 2 _ _ _ hnumber
    exact ⟨hs ++ ':' :: ms, by simp, hs, ms, _, _, rfl, hh, hm, hlt, rfl⟩
  · cases hsixty

/-- An offset of less than a day is that of a zone. -/
theorem reads_scanOffset : (scanOffset (Scan.char ':')).Reads fun part offset ↦
    offset.natAbs < 86400 → IsZone minusSigns part offset := by
  rintro s offset rest h
  rw [scanOffset] at h
  obtain ⟨_, _, hget, h⟩ := Scan.bind_eq_some_iff.1 h
  cases hget
  split at h
  · cases h
    exact ⟨['Z'], rfl, fun _ ↦ .utc (.inl rfl)⟩
  · cases h
    exact ⟨['z'], rfl, fun _ ↦ .utc (.inr rfl)⟩
  · rw [scanSignedOffset] at h
    obtain ⟨_, _, hget, h⟩ := Scan.bind_eq_some_iff.1 h
    cases hget
    split at h
    · obtain ⟨_, _, hset, h⟩ := Scan.bind_eq_some_iff.1 h
      cases hset
      obtain ⟨_, rfl, hs, ms, hours, minutes, rfl, hh, hm, hlt, rfl⟩ :=
        reads_scanOffsetDigits _ _ _ h
      exact ⟨'+' :: (hs ++ ':' :: ms), rfl, fun hday ↦ .ahead hh hm (by omega) hlt⟩
    · split at h
      · rename_i hsign
        obtain ⟨_, _, hset, h⟩ := Scan.bind_eq_some_iff.1 h
        cases hset
        obtain ⟨_, _, hdigits, hvalue⟩ := Scan.bind_eq_some_iff.1 h
        cases hvalue
        obtain ⟨_, rfl, hs, ms, hours, minutes, rfl, hh, hm, hlt, rfl⟩ :=
          reads_scanOffsetDigits _ _ _ hdigits
        exact ⟨_ :: (hs ++ ':' :: ms), rfl, fun hday ↦ .behind hsign hh hm (by omega) hlt⟩
      · cases h
    · cases h

/-- A date and a time of day are read field by field, with a sign between any two. -/
theorem reads_scanCivil : scanCivil.Reads fun part c ↦
    ∃ (y mo d h mi s f : List Char) (year : Nat) (separator : Char),
      part = y ++ '-' :: (mo ++ '-' :: (d ++ separator :: (h ++ ':' :: (mi ++ ':' :: (s ++ f))))) ∧
        IsField 4 y year ∧ IsField 2 mo c.date.month ∧ IsField 2 d c.date.day ∧
        separator ∈ ['t', 'T', ' '] ∧ IsField 2 h c.hour ∧ IsField 2 mi c.minute ∧
        IsField 2 s c.second ∧ IsFraction f c.nanos ∧ c.date.year = year := by
  rintro s c rest hread
  rw [scanCivil] at hread
  -- The sequence is taken apart first, so that each part can be recognized by its own grammar.
  obtain ⟨year, _, hyear, hread⟩ := Scan.bind_eq_some_iff.1 hread
  obtain ⟨_, _, hfirst, hread⟩ := Scan.bind_eq_some_iff.1 hread
  obtain ⟨month, _, hmonth, hread⟩ := Scan.bind_eq_some_iff.1 hread
  obtain ⟨_, _, hsecond, hread⟩ := Scan.bind_eq_some_iff.1 hread
  obtain ⟨day, _, hday, hread⟩ := Scan.bind_eq_some_iff.1 hread
  obtain ⟨_, _, hbetween, hread⟩ := Scan.bind_eq_some_iff.1 hread
  obtain ⟨hour, _, hhour, hread⟩ := Scan.bind_eq_some_iff.1 hread
  obtain ⟨_, _, hthird, hread⟩ := Scan.bind_eq_some_iff.1 hread
  obtain ⟨minute, _, hminute, hread⟩ := Scan.bind_eq_some_iff.1 hread
  obtain ⟨_, _, hfourth, hread⟩ := Scan.bind_eq_some_iff.1 hread
  obtain ⟨second, _, hsec, hread⟩ := Scan.bind_eq_some_iff.1 hread
  obtain ⟨nanos, _, hnanos, hvalue⟩ := Scan.bind_eq_some_iff.1 hread
  cases hvalue
  obtain ⟨y, rfl, hy⟩ := Scan.reads_number 4 _ _ _ hyear
  obtain ⟨_, rfl, rfl⟩ := Scan.reads_char '-' _ _ _ hfirst
  obtain ⟨mo, rfl, hmo⟩ := Scan.reads_number 2 _ _ _ hmonth
  obtain ⟨_, rfl, rfl⟩ := Scan.reads_char '-' _ _ _ hsecond
  obtain ⟨d, rfl, hd⟩ := Scan.reads_number 2 _ _ _ hday
  obtain ⟨_, rfl, separator, hseparator, rfl⟩ := Scan.reads_oneOf _ _ _ _ hbetween
  obtain ⟨h, rfl, hh⟩ := Scan.reads_number 2 _ _ _ hhour
  obtain ⟨_, rfl, rfl⟩ := Scan.reads_char ':' _ _ _ hthird
  obtain ⟨mi, rfl, hmi⟩ := Scan.reads_number 2 _ _ _ hminute
  obtain ⟨_, rfl, rfl⟩ := Scan.reads_char ':' _ _ _ hfourth
  obtain ⟨sec, rfl, hs⟩ := Scan.reads_number 2 _ _ _ hsec
  obtain ⟨f, rfl, hf⟩ := reads_scanFraction _ _ _ hnanos
  exact ⟨_, by simp, y, mo, d, h, mi, sec, f, year, separator, rfl, hy, hmo, hd, hseparator, hh,
    hmi, hs, hf, rfl⟩

/-- What clock and calendar show at an instant is within their bounds. -/
theorem bounds_of_ofCivil? {c : Civil} {offset : Int} {t : Instant}
    (h : ofCivil? c offset = some t) :
    c.date.isValid = true ∧ c.hour < 24 ∧ c.minute < 60 ∧ c.second ≤ 60 := by
  rw [ofCivil?] at h
  obtain ⟨_, hguard, -⟩ := Option.bind_eq_some_iff.1 h
  cases hbounds : c.date.isValid && c.hour < 24 && c.minute < 60 && c.second ≤ 60 &&
      c.nanos < 1000000000 with
  | false =>
    rw [hbounds] at hguard
    cases hguard
  | true =>
    simp only [Bool.and_eq_true, decide_eq_true_eq] at hbounds
    exact ⟨hbounds.1.1.1.1, hbounds.1.1.1.2, hbounds.1.1.2, hbounds.1.2⟩

/-- **A text that is read is a timestamp**, if with the minus sign. -/
theorem exists_isTimestamp_of_parseChars? {s : List Char} {t : Instant}
    (h : parseChars? s = some t) :
    ∃ c offset, IsTimestamp minusSigns s c offset ∧ ofCivil? c offset = some t := by
  rw [parseChars?] at h
  obtain ⟨⟨c, offset⟩, hwhole, hcivil⟩ := Option.bind_eq_some_iff.1 h
  rw [Scan.whole] at hwhole
  obtain ⟨⟨⟨_, _⟩, rest⟩, hscan, hend⟩ := Option.bind_eq_some_iff.1 hwhole
  dsimp only at hend hcivil
  split at hend
  · rename_i hempty
    cases hend
    obtain rfl := List.isEmpty_iff.1 hempty
    rw [scanRfc3339] at hscan
    obtain ⟨_, _, hread, hscan⟩ := Scan.bind_eq_some_iff.1 hscan
    obtain ⟨_, _, hoffset, hscan⟩ := Scan.bind_eq_some_iff.1 hscan
    split at hscan
    · rename_i hday
      cases hscan
      obtain ⟨hdate, hh, hmi, hs⟩ := bounds_of_ofCivil? hcivil
      obtain ⟨_, rfl, y, mo, d, hour, mi, sec, f, year, separator, rfl, hyear, hmonth, hmday,
        hseparator, hhour, hminute, hsecond, hfraction, heq⟩ := reads_scanCivil _ _ _ hread
      obtain ⟨z, rfl, hzone⟩ := reads_scanOffset _ _ _ hoffset
      have htimestamp := IsTimestamp.mk hyear hmonth hmday hseparator hhour hminute hsecond
        hfraction (hzone hday) heq hdate hh hmi hs
      refine ⟨c, offset, ?_, hcivil⟩
      simpa using htimestamp
    · cases hscan
  · cases hend

/-! ### Texts that denote an instant -/

/-- A date of a year with four digits is far from the bounds of the range of instants. -/
theorem toDays_bounds {d : Date} (h : d.isValid = true) (hyear : 0 ≤ d.year ∧ d.year ≤ 9999) :
    -719528 ≤ d.toDays ∧ d.toDays ≤ 2933000 := by
  simp only [Date.isValid, Bool.and_eq_true, decide_eq_true_eq] at h
  obtain ⟨⟨⟨-, hmonth⟩, hone⟩, hday⟩ := h
  have hbefore : ∀ leap, ∀ month < 13, daysBeforeMonth leap month ≤ 335 := by decide
  have hlength : ∀ leap, ∀ month < 13, ((monthLengths leap)[month - 1]?).getD 0 ≤ 31 := by decide
  have hmonths := hbefore (isLeap d.year) d.month (by omega)
  have hdays := hlength (isLeap d.year) d.month (by omega)
  simp only [Date.toDays, daysBeforeYear, epochDay]
  omega

/-- The nine digits of a fraction, in two parts. -/
theorem pow_mul_pow {k m : Nat} (h : k + m = 9) : Nat.pow 10 k * Nat.pow 10 m = 1000000000 :=
  (Nat.pow_add 10 k m).symm.trans (congrArg (Nat.pow 10) h)

/-- Of the digits of a fraction only nine count. -/
theorem nanosOfDigits_lt {ds : List Char} (hds : ∀ d ∈ ds, isDigit d = true) :
    nanosOfDigits ds < 1000000000 := by
  have hvalue : digitsValue 0 (ds.take 9) < 1 * Nat.pow 10 (ds.take 9).length :=
    digitsValue_lt (fun d hd ↦ hds d (List.mem_of_mem_take hd)) 0
  have hlength : (ds.take 9).length + (9 - ds.length) = 9 := by
    rw [List.length_take]
    omega
  rw [nanosOfDigits, ← pow_mul_pow hlength]
  rw [Nat.one_mul] at hvalue
  exact Nat.mul_lt_mul_of_pos_right hvalue (Nat.pow_pos (by decide))

/-- A fraction is less than a second. -/
theorem IsFraction.lt {f : List Char} {nanos : Nat} (h : IsFraction f nanos) :
    nanos < 1000000000 := by
  cases h with
  | none => decide
  | point _ hds => exact nanosOfDigits_lt hds

/-- Zones are whole minutes and less than a day. -/
theorem IsZone.bounds {minus z : List Char} {offset : Int} (h : IsZone minus z offset) :
    offset % 60 = 0 ∧ offset.natAbs < 86400 := by
  cases h with
  | utc => exact ⟨rfl, by decide⟩
  | ahead => omega
  | behind => omega

/-- **Every timestamp denotes an instant.** -/
theorem IsTimestamp.exists_ofCivil? {minus s : List Char} {c : Civil} {offset : Int}
    (h : IsTimestamp minus s c offset) : ∃ t, ofCivil? c offset = some t := by
  cases h with
  | @mk _ _ _ _ _ _ _ _ year _ _ _ hyear _ _ _ _ _ _ hfraction hzone heq hdate hh hmi hs =>
    obtain ⟨hminutes, hday⟩ := hzone.bounds
    have hnanos := hfraction.lt
    have hfour : year < 10000 := by
      obtain ⟨hlength, hdigits, rfl⟩ := hyear
      have hlt := digitsValue_lt hdigits 0
      rwa [hlength] at hlt
    obtain ⟨hfirst, hlast⟩ := toDays_bounds hdate (by omega)
    have hshown : shownSeconds c = c.date.toDays * 86400 +
        (c.hour * 3600 + c.minute * 60 + min c.second 59 : Nat) := rfl
    -- The instant is given by its parts, which are in range, and is then what the clock shows.
    refine ⟨⟨shownSeconds c - offset, c.nanos + if c.second = 60 then 1000000000 else 0,
      ?_, ?_, ?_⟩,
      (ofCivil?_eq offset hdate hh hmi hs hnanos (by omega)).trans
        (ofParts?_eq_some_iff.2 ⟨rfl, rfl⟩)⟩
    · omega
    · split <;> omega
    · split <;> omega

/-- **What the strict reader reads**: the timestamps, and nothing else. -/
theorem parseChars?_eq_some_iff {s : List Char} {t : Instant} :
    parseChars? s = some t ↔
      ∃ c offset, IsTimestamp minusSigns s c offset ∧ ofCivil? c offset = some t := by
  refine ⟨exists_isTimestamp_of_parseChars?, ?_⟩
  rintro ⟨c, offset, h, hcivil⟩
  rw [parseChars?_of_isTimestamp h, hcivil]

end AuditFeed.Instant
