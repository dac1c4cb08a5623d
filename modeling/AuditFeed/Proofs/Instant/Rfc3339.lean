import AuditFeed.Instant.Rfc3339
import AuditFeed.Proofs.Decimal.Digits
import AuditFeed.Proofs.Instant.Calendar

/-!
# The strict reader and the writer of times

The writer is total and the reader is not: `Instant.parse?_text` says that a written time is read
back exactly if its year has four digits, and that nothing is read otherwise. So no time is ever
read back as another one.

## The grammar

`Instant.IsTimestamp` is the grammar of RFC 3339, stated without the reader and without the writer,
and `Instant.IsDateTime` is the part of it with capital letters. The reader reads all of the grammar
(`Instant.parseChars?_of_isTimestamp`), and what the writer writes is in the smaller part of it, as
long as the year has four digits (`Instant.isDateTime_chars`). What may stand for a minus is a
parameter, so that the reader, which takes two signs for one, is held against the same grammar as
the document that knows one only.

## Scanners

A scanner takes a value off the front of a text. For each field there is one lemma that says what is
taken off a text of the grammar and that the rest is left, whatever it is, or whatever does not go
on with the field. A whole text is read by rewriting with these from left to right.

## Precision

What is written with fewer digits than the time has is read back as the time cut to these digits
(`Instant.parse?_millisText`), in a leap second and before the epoch too: `Instant.cut` touches the
nanoseconds alone.

## Main statements

* `Instant.parseChars?_of_isTimestamp`: the reader reads the grammar.
* `Instant.isDateTime_chars`: the writer writes it.
* `Instant.parse?_text`, `Instant.parse?_millisText`: what a written time is read back as.
-/

namespace AuditFeed.Text

/-- A number that is written with exactly this many digits. -/
def IsField (width : Nat) (ds : List Char) (n : Nat) : Prop :=
  ds.length = width ∧ (∀ c ∈ ds, isDigit c = true) ∧ digitsValue 0 ds = n

/-- A padded numeral of the width is a field of it. -/
theorem isField_padded {width n : Nat} (h : (Decimal.digits n).length ≤ width) :
    IsField width (Decimal.padded width n) n :=
  ⟨Decimal.length_padded h, fun _ hc ↦ Decimal.isDigit_of_mem_padded hc,
    Decimal.digitsValue_padded width n⟩

/-- A field that has a width starts with a digit. -/
theorem IsField.exists_eq_cons {width n : Nat} {ds : List Char} (h : IsField (width + 1) ds n) :
    ∃ d rest, ds = d :: rest ∧ isDigit d = true := by
  obtain ⟨hlength, hds, -⟩ := h
  obtain ⟨d, rest, rfl⟩ := List.exists_cons_of_length_eq_add_one hlength
  exact ⟨d, rest, rfl, hds d List.mem_cons_self⟩

namespace Scan

variable {α β : Type}

/-! ### Scanners one after the other -/

/-- A sequence goes on with what its first scanner leaves. -/
theorem bind_of_some {p : Scan α} {f : α → Scan β} {s rest : List Char} {a : α}
    (h : p s = some (a, rest)) : (p >>= f) s = f a rest := by
  show (p s).bind _ = _
  rw [h]
  rfl

/-- A sequence fails with its first scanner. -/
theorem bind_of_none {p : Scan α} {f : α → Scan β} {s : List Char} (h : p s = none) :
    (p >>= f) s = none := by
  show (p s).bind _ = _
  rw [h]
  rfl

theorem char_cons (c : Char) (rest : List Char) : char c (c :: rest) = some ((), rest) := by
  rw [char, if_pos rfl]

/-- Digits of the greatest width are read as their number, whatever follows. -/
theorem number_of_isField_of_le {least width n : Nat} {ds : List Char} (h : IsField width ds n)
    (hleast : least ≤ width) (rest : List Char) :
    number least (some width) (ds ++ rest) = some (n, rest) := by
  obtain ⟨rfl, hds, rfl⟩ := h
  have hrun : ds.takeWhile isDigit = ds := by
    have h := @Decimal.takeWhile_isDigit_append ds [] hds (by rintro c ⟨⟩)
    rwa [List.append_nil] at h
  have hdigits : digits least (some ds.length) (ds ++ rest) = some (ds, rest) := by
    simp [digits, hrun, hleast]
  rw [number, bind_of_some hdigits]
  rfl

/-- Digits of a fixed width are read as their number, whatever follows. -/
theorem number_of_isField {width n : Nat} {ds : List Char} (h : IsField width ds n)
    (rest : List Char) : number width (some width) (ds ++ rest) = some (n, rest) :=
  number_of_isField_of_le h (Nat.le_refl width) rest

/-- What does not start with a digit is no number. -/
theorem number_of_not_digit {c : Char} (h : isDigit c = false) {least : Nat} (hleast : 0 < least)
    (most : Nat) (rest : List Char) : number least (some most) (c :: rest) = none := by
  have hrun : ((c :: rest).take most).takeWhile isDigit = [] := by
    cases most <;> simp [h]
  have hdigits : digits least (some most) (c :: rest) = none := by
    simp only [digits, hrun, List.length_nil]
    exact if_neg (by omega)
  rw [number, bind_of_none hdigits]

/-- All digits in front of something else are read. -/
theorem digits_append {ds rest : List Char} {c : Char} (hne : ds ≠ [])
    (hds : ∀ d ∈ ds, isDigit d = true) (hc : isDigit c = false) :
    digits 1 none (ds ++ c :: rest) = some (ds, c :: rest) := by
  have hrun : (ds ++ c :: rest).takeWhile isDigit = ds :=
    Decimal.takeWhile_isDigit_append hds (by rintro d ⟨⟩; exact hc)
  have hlen : 1 ≤ ds.length := List.length_pos_iff.2 hne
  simp only [digits, hrun, if_pos hlen, List.drop_left]

end Scan

end AuditFeed.Text

namespace AuditFeed.Instant

open Calendar Text

/-! ### The grammar -/

/-- The fraction of a second, in nanoseconds: a point and at least one digit, or nothing. -/
inductive IsFraction : List Char → Nat → Prop
  | none : IsFraction [] 0
  | point {ds : List Char} (hne : ds ≠ []) (hds : ∀ d ∈ ds, isDigit d = true) :
      IsFraction ('.' :: ds) (nanosOfDigits ds)

/-- An offset from UTC in seconds: a `Z`, or a sign, hours and minutes. -/
inductive IsOffset : List Char → Int → Prop
  | utc : IsOffset ['Z'] 0
  | ahead {h m : List Char} {hours minutes : Nat} (hh : IsField 2 h hours)
      (hm : IsField 2 m minutes) (hhours : hours < 24) (hminutes : minutes < 60) :
      IsOffset ('+' :: (h ++ ':' :: m)) (hours * 3600 + minutes * 60 : Nat)
  | behind {h m : List Char} {hours minutes : Nat} (hh : IsField 2 h hours)
      (hm : IsField 2 m minutes) (hhours : hours < 24) (hminutes : minutes < 60) :
      IsOffset ('-' :: (h ++ ':' :: m)) (-(hours * 3600 + minutes * 60 : Nat))

/-- A date and time by the grammar of RFC 3339: the reading of a clock that is `offset` seconds
ahead of UTC, with a date that the calendar has and second 60 for a leap second. -/
inductive IsDateTime : List Char → Civil → Int → Prop
  | mk {y mo d h mi s f z : List Char} {year : Nat} {c : Civil} {offset : Int}
      (hyear : IsField 4 y year) (hmonth : IsField 2 mo c.date.month)
      (hday : IsField 2 d c.date.day) (hhour : IsField 2 h c.hour)
      (hminute : IsField 2 mi c.minute) (hsecond : IsField 2 s c.second)
      (hfraction : IsFraction f c.nanos) (hoffset : IsOffset z offset)
      (heq : c.date.year = year) (hdate : c.date.isValid = true) (hh : c.hour < 24)
      (hmi : c.minute < 60) (hs : c.second ≤ 60) :
      IsDateTime (y ++ '-' :: (mo ++ '-' :: (d ++ 'T' :: (h ++ ':' :: (mi ++ ':' :: (s ++
        (f ++ z))))))) c offset

/-- A zone in full: a `Z` in either case, or a sign, hours and minutes. RFC 3339 has the hyphen for
a minus; `minus` lists what may stand for one. -/
inductive IsZone (minus : List Char) : List Char → Int → Prop
  | utc {z : Char} (hz : z = 'Z' ∨ z = 'z') : IsZone minus [z] 0
  | ahead {h m : List Char} {hours minutes : Nat} (hh : IsField 2 h hours)
      (hm : IsField 2 m minutes) (hhours : hours < 24) (hminutes : minutes < 60) :
      IsZone minus ('+' :: (h ++ ':' :: m)) (hours * 3600 + minutes * 60 : Nat)
  | behind {sign : Char} {h m : List Char} {hours minutes : Nat} (hsign : sign ∈ minus)
      (hh : IsField 2 h hours) (hm : IsField 2 m minutes) (hhours : hours < 24)
      (hminutes : minutes < 60) :
      IsZone minus (sign :: (h ++ ':' :: m)) (-(hours * 3600 + minutes * 60 : Nat))

/-- A date and time by the whole grammar of RFC 3339: the letters count in either case, and a space
may stand between the date and the time. -/
inductive IsTimestamp (minus : List Char) : List Char → Civil → Int → Prop
  | mk {y mo d h mi s f z : List Char} {year : Nat} {separator : Char} {c : Civil} {offset : Int}
      (hyear : IsField 4 y year) (hmonth : IsField 2 mo c.date.month)
      (hday : IsField 2 d c.date.day) (hseparator : separator ∈ ['t', 'T', ' '])
      (hhour : IsField 2 h c.hour) (hminute : IsField 2 mi c.minute)
      (hsecond : IsField 2 s c.second) (hfraction : IsFraction f c.nanos)
      (hzone : IsZone minus z offset) (heq : c.date.year = year) (hdate : c.date.isValid = true)
      (hh : c.hour < 24) (hmi : c.minute < 60) (hs : c.second ≤ 60) :
      IsTimestamp minus (y ++ '-' :: (mo ++ '-' :: (d ++ separator :: (h ++ ':' :: (mi ++ ':' ::
        (s ++ (f ++ z))))))) c offset

/-- What the reader takes for a minus: the hyphen and the minus sign. -/
def minusSigns : List Char := ['-', '\u2212']

/-- An offset with a hyphen for its minus is a zone. -/
theorem IsOffset.isZone {z : List Char} {offset : Int} (h : IsOffset z offset) {minus : List Char}
    (hminus : '-' ∈ minus) : IsZone minus z offset := by
  cases h with
  | utc => exact .utc (.inl rfl)
  | ahead hh hm hhours hminutes => exact .ahead hh hm hhours hminutes
  | behind hh hm hhours hminutes => exact .behind hminus hh hm hhours hminutes

/-- A text of the smaller grammar is one of the whole grammar. -/
theorem IsDateTime.isTimestamp {s : List Char} {c : Civil} {offset : Int}
    (h : IsDateTime s c offset) {minus : List Char} (hminus : '-' ∈ minus) :
    IsTimestamp minus s c offset := by
  cases h with
  | mk hyear hmonth hday hhour hminute hsecond hfraction hoffset heq hdate hh hmi hs =>
    exact .mk hyear hmonth hday (by decide) hhour hminute hsecond hfraction
      (hoffset.isZone hminus) heq hdate hh hmi hs

/-- What counts as a minus is what the grammar is as wide as. -/
theorem IsTimestamp.mono {minus more s : List Char} {c : Civil} {offset : Int}
    (h : IsTimestamp minus s c offset) (hminus : ∀ sign ∈ minus, sign ∈ more) :
    IsTimestamp more s c offset := by
  have hwider {z : List Char} (hzone : IsZone minus z offset) : IsZone more z offset := by
    cases hzone with
    | utc hz => exact .utc hz
    | ahead hh hm hhours hlt => exact .ahead hh hm hhours hlt
    | behind hsign hh hm hhours hlt => exact .behind (hminus _ hsign) hh hm hhours hlt
  cases h with
  | mk hyear hmonth hday hbetween hhour hminute hsecond hfraction hzone heq hdate hh hmi hs =>
    exact .mk hyear hmonth hday hbetween hhour hminute hsecond hfraction (hwider hzone) heq hdate
      hh hmi hs

/-! ### Fractions -/

/-- Without a point there is no fraction. -/
theorem scanFraction_of_ne {c : Char} (h : c ≠ '.') (rest : List Char) :
    scanFraction (c :: rest) = some (0, c :: rest) := by
  have hget : (get : Scan (List Char)) (c :: rest) = some (c :: rest, c :: rest) := rfl
  rw [scanFraction, Scan.bind_of_some hget]
  simp only [List.cons.injEq, h, false_and, imp_self, implies_true]
  rfl

/-- All digits behind a point are those of the fraction. -/
theorem scanFraction_point {ds rest : List Char} {c : Char} (hne : ds ≠ [])
    (hds : ∀ d ∈ ds, isDigit d = true) (hc : isDigit c = false) :
    scanFraction ('.' :: (ds ++ c :: rest)) = some (nanosOfDigits ds, c :: rest) := by
  have hread : scanFraction ('.' :: (ds ++ c :: rest)) =
      (Scan.digits 1 none >>= fun run ↦ pure (nanosOfDigits run)) (ds ++ c :: rest) := rfl
  rw [hread, Scan.bind_of_some (Scan.digits_append hne hds hc)]
  rfl

theorem padded_ne_nil (width n : Nat) : Decimal.padded width n ≠ [] := by
  rw [Decimal.padded]
  exact List.append_ne_nil_of_right_ne_nil _ (Decimal.digits_ne_nil n)

/-- The digits of a fraction, up to nine of them, denote that many parts of a second. -/
theorem nanosOfDigits_padded {width n : Nat} (hwidth : width ≤ 9)
    (h : (Decimal.digits n).length ≤ width) :
    nanosOfDigits (Decimal.padded width n) = n * Nat.pow 10 (9 - width) := by
  have hlen := Decimal.length_padded h
  rw [nanosOfDigits, List.take_of_length_le (by omega), Decimal.digitsValue_padded, hlen]

/-- Up to nine digits after a point are a fraction of that many parts of a second. -/
theorem isFraction_padded {width n : Nat} (hwidth : width ≤ 9) (hpos : 0 < width)
    (hlt : n < Nat.pow 10 width) :
    IsFraction ('.' :: Decimal.padded width n) (n * Nat.pow 10 (9 - width)) := by
  rw [← nanosOfDigits_padded hwidth (Decimal.length_digits_le hpos hlt)]
  exact .point (padded_ne_nil width n) fun _ hd ↦ Decimal.isDigit_of_mem_padded hd

/-- What a precision keeps of nanoseconds. -/
def Precision.keep : Precision → Nat → Nat
  | .fewest, nanos => nanos
  | .millis, nanos => nanos / 1000000 * 1000000

/-- **A written fraction is one**, of as many nanoseconds as its digits keep. -/
theorem isFraction_fraction (p : Precision) {nanos : Nat} (h : nanos < 1000000000) :
    IsFraction (fraction p nanos) (p.keep nanos) := by
  -- What is left of the value after cutting zeros off has as many digits as are written.
  have hpoint : ∀ width n kept, width ≤ 9 → n < Nat.pow 10 width → 0 < width →
      n * Nat.pow 10 (9 - width) = kept →
      IsFraction ('.' :: Decimal.padded width n) kept := by
    rintro width n kept hwidth hlt hpos rfl
    exact isFraction_padded hwidth hpos hlt
  cases p with
  | millis =>
    refine hpoint 3 _ _ (by decide) ?_ (by decide) rfl
    show nanos / 1000000 < 1000
    omega
  | fewest =>
    simp only [fraction, Precision.keep]
    split
    · rename_i hzero
      rw [hzero]
      exact .none
    split
    · refine hpoint 3 _ _ (by decide) ?_ (by decide) ?_
      · show nanos / 1000000 < 1000
        omega
      · show nanos / 1000000 * 1000000 = nanos
        omega
    split
    · refine hpoint 6 _ _ (by decide) ?_ (by decide) ?_
      · show nanos / 1000 < 1000000
        omega
      · show nanos / 1000 * 1000 = nanos
        omega
    · exact hpoint 9 _ _ (by decide) h (by decide) (Nat.mul_one nanos)

/-! ### Reading the grammar -/

/-- A zone does not go on with the digits of the second. -/
theorem IsZone.exists_eq_cons {z : List Char} {offset : Int} (h : IsZone minusSigns z offset) :
    ∃ c rest, z = c :: rest ∧ isDigit c = false ∧ c ≠ '.' := by
  cases h with
  | utc hz => rcases hz with rfl | rfl <;> exact ⟨_, _, rfl, rfl, by decide⟩
  | ahead => exact ⟨'+', _, rfl, rfl, by decide⟩
  | behind hsign =>
    rcases List.mem_cons.1 hsign with rfl | hsign
    · exact ⟨_, _, rfl, rfl, by decide⟩
    · obtain rfl := List.mem_singleton.1 hsign
      exact ⟨_, _, rfl, rfl, by decide⟩

/-- A fraction is read to its end. -/
theorem IsFraction.scanFraction_append {f : List Char} {nanos : Nat} (h : IsFraction f nanos)
    {c : Char} (hc : isDigit c = false) (hpoint : c ≠ '.') (rest : List Char) :
    scanFraction (f ++ c :: rest) = some (nanos, c :: rest) := by
  cases h with
  | none => exact scanFraction_of_ne hpoint rest
  | point hne hds => exact scanFraction_point hne hds hc

/-- Hours and minutes of an offset are read as seconds. -/
theorem scanOffsetDigits_of_isField {h m : List Char} {hours minutes : Nat}
    (hh : IsField 2 h hours) (hm : IsField 2 m minutes) (hminutes : minutes < 60) :
    scanOffsetDigits (Scan.char ':') (h ++ ':' :: m) =
      some (((hours * 3600 + minutes * 60 : Nat) : Int), []) := by
  have hsixtieths : scanSixtieths m = some (minutes, []) := by
    have hnumber := Scan.number_of_isField hm []
    rw [List.append_nil] at hnumber
    rw [scanSixtieths, Scan.bind_of_some hnumber, if_pos hminutes]
    rfl
  rw [scanOffsetDigits, Scan.bind_of_some (Scan.number_of_isField hh _),
    Scan.bind_of_some (Scan.char_cons _ _), Scan.bind_of_some hsixtieths]
  rfl

/-- **A zone is read as its offset**, which is less than a day. -/
theorem IsZone.scanOffset_eq {z : List Char} {offset : Int} (h : IsZone minusSigns z offset) :
    scanOffset (Scan.char ':') z = some (offset, []) ∧ offset.natAbs < 86400 := by
  cases h with
  | utc hz => rcases hz with rfl | rfl <;> exact ⟨rfl, by decide⟩
  | ahead hh hm hhours hminutes =>
    exact ⟨scanOffsetDigits_of_isField hh hm hminutes, by omega⟩
  | @behind sign h m hours minutes hsign hh hm hhours hminutes =>
    have hread : scanOffset (Scan.char ':') (sign :: (h ++ ':' :: m)) =
        (scanOffsetDigits (Scan.char ':') >>= fun n ↦ pure (-n)) (h ++ ':' :: m) := by
      rcases List.mem_cons.1 hsign with rfl | hsign
      · rfl
      · obtain rfl := List.mem_singleton.1 hsign
        rfl
    refine ⟨?_, by omega⟩
    rw [hread, Scan.bind_of_some (scanOffsetDigits_of_isField hh hm hminutes)]
    rfl

/-- **The strict reader reads every date and time of RFC 3339**, as the instant at which a clock
with that offset shows it. -/
theorem parseChars?_of_isTimestamp {s : List Char} {c : Civil} {offset : Int}
    (h : IsTimestamp minusSigns s c offset) : parseChars? s = ofCivil? c offset := by
  cases h with
  | @mk y mo d h mi sec f z year separator _ _ hyear hmonth hday hbetween hhour hminute hsecond
      hfraction hzone heq =>
    obtain ⟨sign, rest, hz, hdigit, hpoint⟩ := hzone.exists_eq_cons
    obtain ⟨hscan, hlt⟩ := hzone.scanOffset_eq
    have hseparator (rest : List Char) :
        Scan.oneOf ['t', 'T', ' '] (separator :: rest) = some ((), rest) := if_pos hbetween
    have hcivil : scanCivil (y ++ '-' :: (mo ++ '-' :: (d ++ separator :: (h ++ ':' :: (mi ++ ':' ::
        (sec ++ (f ++ z))))))) = some (c, z) := by
      rw [hz, scanCivil, Scan.bind_of_some (Scan.number_of_isField hyear _),
        Scan.bind_of_some (Scan.char_cons _ _),
        Scan.bind_of_some (Scan.number_of_isField hmonth _),
        Scan.bind_of_some (Scan.char_cons _ _),
        Scan.bind_of_some (Scan.number_of_isField hday _),
        Scan.bind_of_some (hseparator _),
        Scan.bind_of_some (Scan.number_of_isField hhour _),
        Scan.bind_of_some (Scan.char_cons _ _),
        Scan.bind_of_some (Scan.number_of_isField hminute _),
        Scan.bind_of_some (Scan.char_cons _ _),
        Scan.bind_of_some (Scan.number_of_isField hsecond _),
        Scan.bind_of_some (hfraction.scanFraction_append hdigit hpoint rest), ← heq]
      rfl
    have hwhole : scanRfc3339.whole (y ++ '-' :: (mo ++ '-' :: (d ++ separator :: (h ++ ':' ::
        (mi ++ ':' :: (sec ++ (f ++ z))))))) = some (c, offset) := by
      rw [Scan.whole, scanRfc3339, Scan.bind_of_some hcivil, Scan.bind_of_some hscan, if_pos hlt]
      rfl
    rw [parseChars?, hwhole]
    rfl

/-! ### Written times -/

/-- A year from 0 to 9999 is written with four digits. -/
theorem yearText_of_plain {year : Int} (h : 0 ≤ year ∧ year ≤ 9999) :
    yearText year = Decimal.padded 4 year.toNat := by
  rw [yearText, if_pos h]

/-- A year outside 0 to 9999 starts with a sign. -/
theorem yearText_of_not_plain {year : Int} (h : ¬ (0 ≤ year ∧ year ≤ 9999)) :
    ∃ (c : Char) (ds : List Char), isDigit c = false ∧ yearText year = c :: ds := by
  rw [yearText, if_neg h]
  by_cases hneg : year < 0
  · exact ⟨'-', _, by decide, by rw [if_pos hneg]⟩
  · exact ⟨'+', _, by decide, by rw [if_neg hneg]⟩

/-- A written time is its fields in order. -/
theorem chars_eq (p : Precision) (t : Instant) :
    t.chars p = yearText t.civil.date.year ++
      '-' :: (Decimal.padded 2 t.civil.date.month ++
      '-' :: (Decimal.padded 2 t.civil.date.day ++
      'T' :: (Decimal.padded 2 t.civil.hour ++
      ':' :: (Decimal.padded 2 t.civil.minute ++
      ':' :: (Decimal.padded 2 t.civil.second ++
      (fraction p t.civil.nanos ++ ['Z'])))))) := by
  simp only [chars, List.append_assoc, List.cons_append]

/-- The instant that a text of this precision shows. -/
def cut (p : Precision) (t : Instant) : Instant where
  seconds := t.seconds
  nanos := p.keep t.nanos
  inRange := t.inRange
  nanos_lt := by
    have := t.nanos_lt
    cases p <;> simp only [Precision.keep] <;> omega
  leap := by
    have := t.leap
    cases p <;> simp only [Precision.keep] <;> omega

/-- Cutting a time changes its nanoseconds alone, also as they are shown. -/
theorem civil_cut (p : Precision) (t : Instant) :
    (t.cut p).civil = { t.civil with nanos := p.keep t.civil.nanos } := by
  cases p with
  | fewest => rfl
  | millis =>
    have hleap : 1000000000 ≤ t.nanos / 1000000 * 1000000 ↔ 1000000000 ≤ t.nanos := by omega
    have hnanos : t.nanos / 1000000 * 1000000 % 1000000000 =
        t.nanos % 1000000000 / 1000000 * 1000000 := by omega
    simp only [civil, cut, Precision.keep, hleap, hnanos]

theorem isField_two {n : Nat} (h : n < 100) : IsField 2 (Decimal.padded 2 n) n :=
  isField_padded (Decimal.length_digits_le (by decide) h)

/-- **A time of a year from 0 to 9999 is written by the grammar**, with as much of its fraction as
the precision keeps. -/
theorem isDateTime_chars (p : Precision) {t : Instant} (h : t.HasPlainYear) :
    IsDateTime (t.chars p) (t.cut p).civil 0 := by
  obtain ⟨hdate, hhour, hminute, hsecond, hnanos⟩ := t.civil_bounds
  have hmonth : t.civil.date.month ≤ 12 := month_ofDays_le _
  have hday : t.civil.date.day ≤ 31 := day_ofDays_le _
  have hyear : IsField 4 (Decimal.padded 4 t.civil.date.year.toNat) t.civil.date.year.toNat := by
    refine isField_padded (Decimal.length_digits_le (by decide) ?_)
    show t.civil.date.year.toNat < 10000
    have := h.1
    have := h.2
    omega
  rw [chars_eq, yearText_of_plain h, civil_cut]
  exact .mk hyear (isField_two (by omega)) (isField_two (by omega)) (isField_two (by omega))
    (isField_two (by omega)) (isField_two (by omega)) (isFraction_fraction p hnanos) .utc
    (Int.toNat_of_nonneg h.1).symm hdate hhour hminute hsecond

/-- **A time of a year from 0 to 9999 is read back**, as far as its digits go and in a leap second
too. -/
theorem parseChars?_chars (p : Precision) {t : Instant} (h : t.HasPlainYear) :
    parseChars? (t.chars p) = some (t.cut p) := by
  rw [parseChars?_of_isTimestamp ((isDateTime_chars p h).isTimestamp (by decide)), ofCivil?_civil]

/-- The strict reader does not read the other years, since they start with a sign. -/
theorem parseChars?_chars_of_not_plain (p : Precision) {t : Instant} (h : ¬ t.HasPlainYear) :
    parseChars? (t.chars p) = none := by
  obtain ⟨c, ds, hc, hyear⟩ := yearText_of_not_plain h
  have hnumber (rest : List Char) : Scan.number 4 (some 4) (c :: rest) = none :=
    Scan.number_of_not_digit hc (by decide) 4 rest
  have hscan : scanRfc3339 (t.chars p) = none := by
    rw [chars_eq, hyear, List.cons_append, scanRfc3339, scanCivil]
    exact Scan.bind_of_none (Scan.bind_of_none (hnumber _))
  have hwhole : scanRfc3339.whole (t.chars p) = none := by
    rw [Scan.whole, hscan]
    rfl
  rw [parseChars?, hwhole]
  rfl

/-- The text of a time is never empty. -/
theorem text_ne_empty (t : Instant) : t.text ≠ "" := by
  intro h
  have hnil : t.chars .fewest = [] := by
    rw [← String.toList_ofList (l := t.chars .fewest)]
    show t.text.toList = []
    rw [h]
    rfl
  rw [chars_eq] at hnil
  exact List.cons_ne_nil _ _ (List.append_eq_nil_iff.1 hnil).2

/-- **The strict reader reads a written time back exactly if its year is from 0 to 9999**, and reads
nothing otherwise. -/
theorem parse?_text (t : Instant) : parse? t.text = if t.HasPlainYear then some t else none := by
  rw [parse?, text, String.toList_ofList]
  split
  · rename_i h
    exact parseChars?_chars .fewest h
  · rename_i h
    exact parseChars?_chars_of_not_plain .fewest h

/-- **A time cut to milliseconds is read back as the start of its millisecond.** -/
theorem parse?_millisText {t : Instant} (h : t.HasPlainYear) :
    parse? t.millisText = some (t.cut .millis) := by
  rw [parse?, millisText, String.toList_ofList, parseChars?_chars .millis h]

end AuditFeed.Instant
