import AuditFeed.Instant.Activity
import AuditFeed.Proofs.Instant.Grammar
import AuditFeed.Proofs.Instant.Range
import AuditFeed.Proofs.Text.Blank

/-!
# What the time field of an activity denotes

The field is read in three steps: as a time of RFC 3339, as whole seconds since the epoch, and as
the epoch where it is neither (`Instant.activity_time_account`). The first two never compete for a
text, since a time has a hyphen behind its year and a number has a sign in front only
(`Instant.IsTimestamp.not_isNumeral`).

## Clocks elsewhere

`Instant.civilAt` is what a clock elsewhere shows. It is what the clock in UTC shows at another
instant, if the offset is in whole minutes (`Instant.exists_civil_eq`), so both directions of the
calendar are those of UTC. A leap second ends a minute on either clock.

## Texts

A time is written with any number of digits that is enough for it, up to nine, and with the zone as
an offset or as the letter for UTC (`Instant.readingText`). Blanks may stand around each text, and
are given as the padding of the text without them. What the field denotes if it is none of these is
said by the same two grammars, negated: so the three steps leave nothing open.

## The minus sign

The reader of times takes one liberty, a minus sign in the place of the hyphen in front of an
offset. The last statement is a text with one, which is not of RFC 3339 and yet denotes a time.

## Main statements

* `Instant.ofCivil?_civilAt`: an instant is read back from what a clock shows.
* `Instant.activity_time_account`: what the field denotes.
* `Instant.activity_time_minusSign`: a text that is not of RFC 3339 and is read.
-/

namespace AuditFeed.Instant

open Calendar Text

/-! ### Clocks elsewhere -/

/-- What calendar and clock show at an instant, `offset` seconds ahead of UTC. -/
def civilAt (t : Instant) (offset : Int) : Civil :=
  let ofDay := ((t.seconds + offset) % 86400).toNat
  let extra := if 1000000000 ≤ t.nanos then 1 else 0
  { date := Date.ofDays ((t.seconds + offset) / 86400)
    hour := ofDay / 3600
    minute := ofDay / 60 % 60
    second := ofDay % 60 + extra
    nanos := t.nanos % 1000000000 }

/-- Does the year have four digits there? -/
def HasPlainYearAt (t : Instant) (offset : Int) : Prop :=
  0 ≤ (t.civilAt offset).date.year ∧ (t.civilAt offset).date.year ≤ 9999

instance (t : Instant) (offset : Int) : Decidable (t.HasPlainYearAt offset) :=
  inferInstanceAs (Decidable (_ ∧ _))

variable {t : Instant} {offset : Int}

/-- A clock elsewhere shows what the one in UTC shows at another instant. -/
theorem exists_civil_eq (hminutes : offset % 60 = 0) (hyear : t.HasPlainYearAt offset) :
    ∃ u : Instant, u.civil = t.civilAt offset ∧ u.seconds = t.seconds + offset ∧
      u.nanos = t.nanos := by
  have hdays := (year_ofDays_mem_iff _).1 hyear
  have hleap := t.leap
  exact ⟨⟨t.seconds + offset, t.nanos, by omega, t.nanos_lt, by omega⟩, rfl, rfl, rfl⟩

/-- **An instant is read back from what a clock elsewhere shows at it.** -/
theorem ofCivil?_civilAt (hminutes : offset % 60 = 0) (hyear : t.HasPlainYearAt offset) :
    ofCivil? (t.civilAt offset) offset = some t := by
  obtain ⟨u, hcivil, hseconds, hnanos⟩ := exists_civil_eq hminutes hyear
  rw [← hcivil, ofCivil?_civil_ahead, hseconds, hnanos, Int.add_sub_cancel, ofParts?_self]

/-! ### Times as they are documented -/

/-- A zone so many minutes ahead of UTC. -/
def zoneText (minutes : Int) : List Char :=
  (if minutes < 0 then '-' else '+') ::
    (Decimal.padded 2 (minutes.natAbs / 60) ++ ':' :: Decimal.padded 2 (minutes.natAbs % 60))

/-- A fraction of a second with so many digits. -/
def fractionText (digits nanos : Nat) : List Char :=
  if digits = 0 then [] else '.' :: Decimal.padded digits (nanos / Nat.pow 10 (9 - digits))

/-- A reading with so many digits of its fraction, and with a zone behind it. -/
def readingText (c : Civil) (digits : Nat) (zone : List Char) : List Char :=
  Decimal.padded 4 c.date.year.toNat ++
    '-' :: (Decimal.padded 2 c.date.month ++
    '-' :: (Decimal.padded 2 c.date.day ++
    'T' :: (Decimal.padded 2 c.hour ++
    ':' :: (Decimal.padded 2 c.minute ++
    ':' :: (Decimal.padded 2 c.second ++
    (fractionText digits c.nanos ++ zone))))))

/-- A zone of less than a day is written by the grammar. -/
theorem isZone_zoneText {minutes : Int} (h : minutes.natAbs < 1440) :
    IsZone ['-'] (zoneText minutes) (minutes * 60) := by
  have hhours : IsField 2 (Decimal.padded 2 (minutes.natAbs / 60)) (minutes.natAbs / 60) :=
    isField_two (by omega)
  have hrest : IsField 2 (Decimal.padded 2 (minutes.natAbs % 60)) (minutes.natAbs % 60) :=
    isField_two (by omega)
  rw [zoneText]
  split
  · have hoffset : minutes * 60 =
        -((minutes.natAbs / 60 * 3600 + minutes.natAbs % 60 * 60 : Nat) : Int) := by omega
    rw [hoffset]
    exact .behind (List.mem_singleton_self _) hhours hrest (by omega) (by omega)
  · have hoffset : minutes * 60 =
        ((minutes.natAbs / 60 * 3600 + minutes.natAbs % 60 * 60 : Nat) : Int) := by omega
    rw [hoffset]
    exact .ahead hhours hrest (by omega) (by omega)

/-- A fraction is written in full by digits that are enough for it. -/
theorem isFraction_fractionText {digits nanos : Nat} (hdigits : digits ≤ 9)
    (hnanos : nanos < 1000000000) (henough : nanos % Nat.pow 10 (9 - digits) = 0) :
    IsFraction (fractionText digits nanos) nanos := by
  rw [fractionText]
  split
  · rename_i hnone
    subst hnone
    have hzero : nanos = 0 := (Nat.mod_eq_of_lt hnanos).symm.trans henough
    rw [hzero]
    exact .none
  · rename_i hsome
    have hpower : Nat.pow 10 digits * Nat.pow 10 (9 - digits) = 1000000000 :=
      pow_mul_pow (by omega)
    have hlt : nanos / Nat.pow 10 (9 - digits) < Nat.pow 10 digits := by
      refine Nat.div_lt_of_lt_mul ?_
      rwa [Nat.mul_comm, hpower]
    have hwhole : nanos / Nat.pow 10 (9 - digits) * Nat.pow 10 (9 - digits) = nanos :=
      Nat.div_mul_cancel (Nat.dvd_of_mod_eq_zero henough)
    have h := isFraction_padded hdigits (Nat.pos_of_ne_zero hsome) hlt
    rwa [hwhole] at h

/-- **What a clock elsewhere shows is a timestamp**, written with digits enough for it. -/
theorem isTimestamp_readingText {digits : Nat} {zone : List Char} (hminutes : offset % 60 = 0)
    (hyear : t.HasPlainYearAt offset) (hdigits : digits ≤ 9)
    (henough : t.nanos % Nat.pow 10 (9 - digits) = 0) (hzone : IsZone ['-'] zone offset) :
    IsTimestamp ['-'] (readingText (t.civilAt offset) digits zone) (t.civilAt offset) offset := by
  obtain ⟨u, hcivil, hseconds, hnanos⟩ := exists_civil_eq hminutes hyear
  obtain ⟨hdate, hhour, hminute, hsecond, hfraction⟩ := u.civil_bounds
  have hmonth : u.civil.date.month ≤ 12 := month_ofDays_le _
  have hday : u.civil.date.day ≤ 31 := day_ofDays_le _
  rw [HasPlainYearAt] at hyear
  rw [← hcivil] at hyear ⊢
  have hfour : IsField 4 (Decimal.padded 4 u.civil.date.year.toNat) u.civil.date.year.toNat := by
    refine isField_padded (Decimal.length_digits_le (by decide) ?_)
    show u.civil.date.year.toNat < 10000
    omega
  -- A leap second has a whole second more, which leaves the digits as they are.
  have hshown : u.civil.nanos % Nat.pow 10 (9 - digits) = 0 := by
    have hdvd : Nat.pow 10 (9 - digits) ∣ 1000000000 :=
      ⟨Nat.pow 10 digits, (pow_mul_pow (by omega)).symm⟩
    show u.nanos % 1000000000 % Nat.pow 10 (9 - digits) = 0
    rw [hnanos, Nat.mod_mod_of_dvd _ hdvd, henough]
  exact .mk hfour (isField_two (by omega)) (isField_two (by omega)) (by decide)
    (isField_two (by omega)) (isField_two (by omega)) (isField_two (by omega))
    (isFraction_fractionText hdigits hfraction hshown) hzone (Int.toNat_of_nonneg hyear.1).symm
    hdate hhour hminute hsecond

/-! ### Times and numbers -/

/-- A zone does not end in a blank. -/
theorem IsZone.exists_eq_append {minus z : List Char} (h : IsZone minus z offset) :
    ∃ front last, z = front ++ [last] ∧ isBlank last = false := by
  have hfield (front : List Char) {m : List Char} {minutes : Nat} (hm : IsField 2 m minutes) :
      ∃ more last, front ++ ':' :: m = more ++ [last] ∧ isBlank last = false := by
    obtain ⟨hlength, hdigits, -⟩ := hm
    have hne : m ≠ [] := List.ne_nil_of_length_pos (by omega)
    exact ⟨front ++ ':' :: m.dropLast, m.getLast hne,
      by rw [List.append_assoc, List.cons_append, List.dropLast_concat_getLast],
      isBlank_of_isDigit (hdigits _ (List.getLast_mem hne))⟩
  cases h with
  | utc hz => rcases hz with rfl | rfl <;> exact ⟨[], _, rfl, rfl⟩
  | ahead _ hm => exact hfield ('+' :: _) hm
  | behind _ _ hm => exact hfield (_ :: _) hm

/-- There is no blank at the ends of a time, though there may be one in it. -/
theorem trimChars_of_isTimestamp {s : List Char} {c : Civil}
    (h : IsTimestamp minusSigns s c offset) : trimChars s = s := by
  cases h with
  | @mk y mo d h mi sec f z year separator _ _ hyear _ _ _ _ _ _ _ hzone =>
    obtain ⟨first, rest, rfl, hfirst⟩ := hyear.exists_eq_cons
    obtain ⟨front, last, rfl, hlast⟩ := hzone.exists_eq_append
    have hsplit : first :: rest ++ '-' :: (mo ++ '-' :: (d ++ separator :: (h ++ ':' :: (mi ++
        ':' :: (sec ++ (f ++ (front ++ [last]))))))) = (first :: rest ++ '-' :: (mo ++ '-' :: (d ++
        separator :: (h ++ ':' :: (mi ++ ':' :: (sec ++ (f ++ front))))))) ++ [last] := by simp
    rw [hsplit]
    refine trimChars_of_ends ?_ ?_
    · rintro _ ⟨⟩
      exact isBlank_of_isDigit hfirst
    · rw [List.getLast?_concat]
      rintro _ ⟨⟩
      exact hlast

/-- **No time is a number**: it has a hyphen behind its year. -/
theorem IsTimestamp.not_isNumeral {minus s : List Char} {c : Civil}
    (h : IsTimestamp minus s c offset) (n : Int) : ¬ IsNumeral s n := by
  intro hnumeral
  cases h with
  | mk hyear =>
    obtain ⟨first, rest, rfl, -⟩ := hyear.exists_eq_cons
    have hhyphen := hnumeral.isDigit_of_mem_tail (List.mem_append_right rest List.mem_cons_self)
    exact Bool.false_ne_true hhyphen

variable {raw : String} {s : List Char}

/-- **The field of a time denotes that time.** -/
theorem ofActivityTime_of_isTimestamp {c : Civil} (hpad : IsPadded raw.toList s)
    (h : IsTimestamp minusSigns s c offset) : ofCivil? c offset = some (ofActivityTime raw) := by
  obtain ⟨t, ht⟩ := h.exists_ofCivil?
  have hread : parseChars? s = some t := (parseChars?_of_isTimestamp h).trans ht
  rw [ht, ofActivityTime, hpad.trimChars_eq, trimChars_of_isTimestamp h, hread]

/-- **The field of a number denotes so many seconds after the epoch.** -/
theorem ofActivityTime_of_isNumeral {n : Int} (hpad : IsPadded raw.toList s) (h : IsNumeral s n)
    (hrange : firstSecond ≤ n ∧ n ≤ lastSecond) :
    (ofActivityTime raw).seconds = n ∧ (ofActivityTime raw).nanos = 0 := by
  have htime : parseChars? s = none := by
    refine Option.eq_none_iff_forall_ne_some.2 fun t ht ↦ ?_
    obtain ⟨c, offset, htimestamp, -⟩ := parseChars?_eq_some_iff.1 ht
    exact htimestamp.not_isNumeral n h
  have hread : (signedNumber? s).bind ofSeconds? = some ⟨n, 0, hrange, by omega, by omega⟩ := by
    rw [signedNumber?_eq_some_iff.2 h]
    exact ofParts?_eq_some_iff.2 ⟨rfl, rfl⟩
  rw [ofActivityTime, hpad.trimChars_eq, trimChars_of_not_blank fun _ hc ↦ h.isBlank_eq_false hc]
  simp only [htime, hread, Option.getD_some, and_self]

/-- The first step fails where there is no time. -/
theorem parseChars?_trimChars_eq_none_iff {raw : List Char} :
    parseChars? (trimChars raw) = none ↔
      ∀ s c offset, IsPadded raw s → ¬ IsTimestamp minusSigns s c offset := by
  rw [Option.eq_none_iff_forall_ne_some]
  constructor
  · intro hnone s c offset hpad h
    obtain ⟨t, ht⟩ := h.exists_ofCivil?
    refine hnone t ?_
    rw [hpad.trimChars_eq, trimChars_of_isTimestamp h, parseChars?_of_isTimestamp h, ht]
  · intro htime t ht
    obtain ⟨c, offset, h, -⟩ := parseChars?_eq_some_iff.1 ht
    exact htime _ c offset (isPadded_trimChars raw) h

/-- The second step fails where there is no number of the range. -/
theorem signedNumber?_trimChars_eq_none_iff {raw : List Char} :
    (signedNumber? (trimChars raw)).bind ofSeconds? = none ↔
      ∀ s n, IsPadded raw s → IsNumeral s n → ¬ (firstSecond ≤ n ∧ n ≤ lastSecond) := by
  rw [Option.eq_none_iff_forall_ne_some]
  constructor
  · intro hnone s n hpad h hrange
    have htrim := trimChars_of_not_blank fun _ hc ↦ h.isBlank_eq_false hc
    obtain ⟨t, ht⟩ := (exists_ofParts?_iff (by decide : 0 < nanosPerSecond)).2 hrange
    refine hnone t ?_
    rw [hpad.trimChars_eq, htrim, signedNumber?_eq_some_iff.2 h]
    exact ht
  · intro hnumeral t ht
    obtain ⟨n, hn, hparts⟩ := Option.bind_eq_some_iff.1 ht
    obtain ⟨rfl, -⟩ := ofParts?_eq_some_iff.1 hparts
    exact hnumeral _ _ (isPadded_trimChars raw) (signedNumber?_eq_some_iff.1 hn) t.inRange

/-- **A field that is neither denotes the epoch.** -/
theorem ofActivityTime_eq_epoch
    (htime : ∀ s c offset, IsPadded raw.toList s → ¬ IsTimestamp minusSigns s c offset)
    (hnumeral : ∀ s n, IsPadded raw.toList s → IsNumeral s n →
      ¬ (firstSecond ≤ n ∧ n ≤ lastSecond)) :
    ofActivityTime raw = epoch := by
  rw [ofActivityTime, parseChars?_trimChars_eq_none_iff.2 htime,
    signedNumber?_trimChars_eq_none_iff.2 hnumeral]
  rfl

/-- **What the time field of an activity denotes**, with any blanks around its text.

Every instant comes back from what a clock shows at it, wherever in the world, and every second from
its number. A text that is neither a time nor a number of the range denotes the epoch. Times are
those of RFC 3339, but that a negative offset may be written with a minus sign too. -/
theorem activity_time_account :
    (∀ (t : Instant) (minutes : Int) (digits : Nat) (zone : List Char) (raw : String),
      minutes.natAbs < 1440 → t.HasPlainYearAt (minutes * 60) → digits ≤ 9 →
      t.nanos % Nat.pow 10 (9 - digits) = 0 →
      (zone = zoneText minutes ∨ minutes = 0 ∧ zone = ['Z']) →
      IsPadded raw.toList (readingText (t.civilAt (minutes * 60)) digits zone) →
        ofActivityTime raw = t) ∧
    (∀ (n : Int) (raw : String), firstSecond ≤ n ∧ n ≤ lastSecond →
      IsPadded raw.toList (Decimal.numeral n) →
        (ofActivityTime raw).seconds = n ∧ (ofActivityTime raw).nanos = 0) ∧
    ∀ raw : String,
      (∀ s c offset, IsPadded raw.toList s → IsTimestamp minusSigns s c offset →
        ofCivil? c offset = some (ofActivityTime raw)) ∧
      (∀ s n, IsPadded raw.toList s → IsNumeral s n → firstSecond ≤ n ∧ n ≤ lastSecond →
        (ofActivityTime raw).seconds = n ∧ (ofActivityTime raw).nanos = 0) ∧
      ((∀ s c offset, IsPadded raw.toList s → ¬ IsTimestamp minusSigns s c offset) →
        (∀ s n, IsPadded raw.toList s → IsNumeral s n → ¬ (firstSecond ≤ n ∧ n ≤ lastSecond)) →
          ofActivityTime raw = epoch) := by
  refine ⟨?_, ?_, ?_⟩
  · intro t minutes digits zone raw hminutes hyear hdigits henough hzone hpad
    have hwhole : minutes * 60 % 60 = 0 := Int.mul_emod_left minutes 60
    have hzone : IsZone ['-'] zone (minutes * 60) := by
      rcases hzone with rfl | ⟨rfl, rfl⟩
      · exact isZone_zoneText hminutes
      · exact .utc (.inl rfl)
    have htimestamp := isTimestamp_readingText hwhole hyear hdigits henough hzone
    have hread := ofActivityTime_of_isTimestamp hpad
      (htimestamp.mono fun sign h ↦ List.mem_singleton.1 h ▸ List.mem_cons_self)
    rw [ofCivil?_civilAt hwhole hyear] at hread
    exact (Option.some.inj hread).symm
  · intro n raw hrange hpad
    exact ofActivityTime_of_isNumeral hpad (Decimal.isNumeral_numeral n) hrange
  · intro raw
    exact ⟨fun s c offset hpad h ↦ ofActivityTime_of_isTimestamp hpad h,
      fun s n hpad h hrange ↦ ofActivityTime_of_isNumeral hpad h hrange, ofActivityTime_eq_epoch⟩

/-- A leap second as New York's clocks show it, a number in ideographic spaces, and a text that is
neither. -/
theorem activity_time_account_leapSecond :
    ofActivityTime " 2016-12-31T18:59:60.500-05:00\n" =
      ⟨1483228799, 1500000000, by decide, by decide, by decide⟩ ∧
    ((ofActivityTime "\u3000-1710496800\u3000").seconds = -1710496800 ∧
      (ofActivityTime "\u3000-1710496800\u3000").nanos = 0) ∧
    ofActivityTime "yesterday-ish" = epoch :=
  ⟨activity_time_account.1 ⟨1483228799, 1500000000, by decide, by decide, by decide⟩ (-300) 3
      (zoneText (-300)) _ (by decide) (by decide +kernel) (by decide) (by decide) (.inl rfl)
      ⟨[' '], ['\n'], by decide +kernel, List.forall_mem_singleton.2 rfl,
        List.forall_mem_singleton.2 rfl⟩,
    activity_time_account.2.1 (-1710496800) _ (by decide)
      ⟨['\u3000'], ['\u3000'], by decide +kernel, List.forall_mem_singleton.2 rfl,
        List.forall_mem_singleton.2 rfl⟩,
    (activity_time_account.2.2 "yesterday-ish").2.2
      (parseChars?_trimChars_eq_none_iff.1 (by decide +kernel))
      (signedNumber?_trimChars_eq_none_iff.1 (by decide +kernel))⟩

/-- A time of RFC 3339 is ASCII. -/
theorem IsTimestamp.isAscii {c : Civil} (h : IsTimestamp ['-'] s c offset) :
    ∀ ch ∈ s, ch.toNat < 128 := by
  have hdigits {ds : List Char} (hds : ∀ d ∈ ds, isDigit d = true) : ∀ ch ∈ ds, ch.toNat < 128 :=
    fun ch hch ↦ by
      have := toNat_of_isDigit (hds ch hch)
      omega
  have hfield {width n : Nat} {ds : List Char} (hds : IsField width ds n) :
      ∀ ch ∈ ds, ch.toNat < 128 := hdigits hds.2.1
  have hfraction {f : List Char} {nanos : Nat} (hf : IsFraction f nanos) :
      ∀ ch ∈ f, ch.toNat < 128 := by
    cases hf with
    | none => exact List.forall_mem_nil _
    | point _ hds => exact List.forall_mem_cons.2 ⟨by decide, hdigits hds⟩
  have hzone {z : List Char} (hz : IsZone ['-'] z offset) : ∀ ch ∈ z, ch.toNat < 128 := by
    cases hz with
    | utc hz => rcases hz with rfl | rfl <;> exact List.forall_mem_singleton.2 (by decide)
    | ahead hh hm =>
      exact List.forall_mem_cons.2 ⟨by decide, List.forall_mem_append.2
        ⟨hfield hh, List.forall_mem_cons.2 ⟨by decide, hfield hm⟩⟩⟩
    | behind hsign hh hm =>
      obtain rfl := List.mem_singleton.1 hsign
      exact List.forall_mem_cons.2 ⟨by decide, List.forall_mem_append.2
        ⟨hfield hh, List.forall_mem_cons.2 ⟨by decide, hfield hm⟩⟩⟩
  have hbetween : ∀ ch ∈ ['t', 'T', ' '], ch.toNat < 128 :=
    List.forall_mem_cons.2 ⟨by decide, List.forall_mem_cons.2 ⟨by decide,
      List.forall_mem_singleton.2 (by decide)⟩⟩
  cases h with
  | mk hyear hmonth hday hseparator hhour hminute hsecond hf hz =>
    simp only [List.forall_mem_append, List.forall_mem_cons]
    exact ⟨hfield hyear, by decide, hfield hmonth, by decide, hfield hday, hbetween _ hseparator,
      hfield hhour, by decide, hfield hminute, by decide, hfield hsecond, hfraction hf, hzone hz⟩

/-- **A minus sign is no part of RFC 3339**, and yet a text with one denotes a time. -/
theorem activity_time_minusSign :
    (∀ s c offset, IsPadded "2024-03-15T10:00:00\u221202:00".toList s →
      ¬ IsTimestamp ['-'] s c offset) ∧
    (∀ s n, IsPadded "2024-03-15T10:00:00\u221202:00".toList s → IsNumeral s n →
      ¬ (firstSecond ≤ n ∧ n ≤ lastSecond)) ∧
    (ofActivityTime "2024-03-15T10:00:00\u221202:00").seconds = 1710504000 ∧
    ofActivityTime "2024-03-15T10:00:00\u221202:00" ≠ epoch := by
  refine ⟨?_, signedNumber?_trimChars_eq_none_iff.1 (by decide +kernel), by decide +kernel,
    by decide +kernel⟩
  intro s c offset ⟨front, back, heq, hfront, hback⟩ h
  have hmem : '\u2212' ∈ front ++ s ++ back := by
    rw [← heq]
    decide +kernel
  have hblank : isBlank '\u2212' ≠ true := by decide
  rcases List.mem_append.1 hmem with hmem | hmem
  · rcases List.mem_append.1 hmem with hmem | hmem
    · exact hblank (hfront _ hmem)
    · exact absurd (h.isAscii _ hmem) (by decide)
  · exact hblank (hback _ hmem)

end AuditFeed.Instant
