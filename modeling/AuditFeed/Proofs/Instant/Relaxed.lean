import AuditFeed.Proofs.Instant.Rfc3339

/-!
# The relaxed reader reads every written time

The strict reader reads a written time only where its year has four digits (`Instant.parse?_text`).
The relaxed one knows years with a sign and reads all of them (`Instant.parseRelaxed?_text`): every
instant comes back from its text, to the nanosecond, in a leap second, and in the years that no text
of RFC 3339 has.

## What is relaxed

What it is relaxed about does not get in the way. A written time has no blanks, so none are read
away, and each field is as long as it may be, so none goes on with the one after it.

## Years

A year without a sign has exactly the four digits that are read of it; one with a sign may have any
number of them, and the hyphen behind it ends it (`Instant.scanYear_yearText`). So the year is the
one field whose statement needs to know what follows, and the sign in front decides which of the two
ways it is read.

## Main statements

* `Instant.scanYear_yearText`: a written year is read back.
* `Instant.parseRelaxed?_text`: a written time is read back.
-/

namespace AuditFeed.Instant

open Calendar Text

/-! ### Blanks that are not there -/

/-- There are no blanks in front of what is none. -/
theorem skipBlanks_cons {c : Char} (h : isBlank c = false) (rest : List Char) :
    skipBlanks (c :: rest) = some ((), c :: rest) := by
  rw [skipBlanks, Scan.skipWhile, List.dropWhile_cons_of_neg (by simp [h])]

/-- A sign between two fields is read where it stands. -/
theorem scanSeparator_cons {c : Char} (h : isBlank c = false) (rest : List Char) :
    scanSeparator c (c :: rest) = some ((), rest) := by
  rw [scanSeparator, Scan.bind_of_some (skipBlanks_cons h rest), Scan.char_cons]

/-- There are no blanks in front of digits. -/
theorem skipBlanks_of_isField {width n : Nat} {ds : List Char} (h : IsField (width + 1) ds n)
    (rest : List Char) : skipBlanks (ds ++ rest) = some ((), ds ++ rest) := by
  obtain ⟨d, ds, rfl, hd⟩ := h.exists_eq_cons
  exact skipBlanks_cons (isBlank_of_isDigit hd) _

/-! ### Fields -/

/-- Two digits are read as their number, whatever follows. -/
theorem scanShort_of_isField {n : Nat} {ds : List Char} (h : IsField 2 ds n) (rest : List Char) :
    scanShort (ds ++ rest) = some (n, rest) := by
  rw [scanShort, Scan.bind_of_some (skipBlanks_of_isField h rest),
    Scan.number_of_isField_of_le h (by decide)]

/-- All digits in front of something else are read as their number. -/
theorem number_padded_append {c : Char} (hc : isDigit c = false) (width n : Nat)
    (rest : List Char) :
    Scan.number 1 none (Decimal.padded width n ++ c :: rest) = some (n, c :: rest) := by
  have hdigits : Scan.digits 1 none (Decimal.padded width n ++ c :: rest) =
      some (Decimal.padded width n, c :: rest) :=
    Scan.digits_append (padded_ne_nil width n) (fun _ hd ↦ Decimal.isDigit_of_mem_padded hd) hc
  rw [Scan.number, Scan.bind_of_some hdigits]
  exact congrArg (fun k ↦ some (k, c :: rest)) (Decimal.digitsValue_padded width n)

/-- A year that starts with a digit has no sign. -/
theorem scanYear_of_isDigit {c : Char} (h : isDigit c = true) (rest : List Char) :
    scanYear (c :: rest) =
      (do return ((← Scan.number 1 (some 4) : Nat) : Int) : Scan Int) (c :: rest) := by
  have hminus : c ≠ '-' := by
    rintro rfl
    exact absurd h (by decide)
  have hplus : c ≠ '+' := by
    rintro rfl
    exact absurd h (by decide)
  have hget : (get : Scan (List Char)) (c :: rest) = some (c :: rest, c :: rest) := rfl
  rw [scanYear, Scan.bind_of_some (skipBlanks_cons (isBlank_of_isDigit h) _),
    Scan.bind_of_some hget]
  simp only [List.cons.injEq, hminus, hplus, false_and, imp_self, implies_true]

/-- **A written year is read back**, in front of the hyphen that ends it. -/
theorem scanYear_yearText (year : Int) (rest : List Char) :
    scanYear (yearText year ++ '-' :: rest) = some (year, '-' :: rest) := by
  by_cases hplain : 0 ≤ year ∧ year ≤ 9999
  · have hfield : IsField 4 (Decimal.padded 4 year.toNat) year.toNat := by
      refine isField_padded (Decimal.length_digits_le (by decide) ?_)
      show year.toNat < 10000
      omega
    have hleast : 1 ≤ 4 := by decide
    have hnumber := Scan.number_of_isField_of_le hfield hleast ('-' :: rest)
    obtain ⟨d, ds, hds, hd⟩ := hfield.exists_eq_cons
    -- The first digit shows that there is no sign, so four digits are read and no more.
    rw [hds, List.cons_append] at hnumber
    rw [yearText, if_pos hplain, hds, List.cons_append, scanYear_of_isDigit hd,
      Scan.bind_of_some hnumber, Int.toNat_of_nonneg hplain.1]
    rfl
  · have hnumber := number_padded_append (c := '-') (by decide) 4 year.natAbs rest
    rw [yearText, if_neg hplain]
    by_cases hneg : year < 0
    · have hread : scanYear ('-' :: (Decimal.padded 4 year.natAbs ++ '-' :: rest)) =
          (do return -((← Scan.number 1 none : Nat) : Int) : Scan Int)
            (Decimal.padded 4 year.natAbs ++ '-' :: rest) := rfl
      have hyear : -(year.natAbs : Int) = year := by omega
      rw [if_pos hneg, List.cons_append, hread, Scan.bind_of_some hnumber, hyear]
      rfl
    · have hread : scanYear ('+' :: (Decimal.padded 4 year.natAbs ++ '-' :: rest)) =
          (do return ((← Scan.number 1 none : Nat) : Int) : Scan Int)
            (Decimal.padded 4 year.natAbs ++ '-' :: rest) := rfl
      have hyear : (year.natAbs : Int) = year := by omega
      rw [if_neg hneg, List.cons_append, hread, Scan.bind_of_some hnumber, hyear]
      rfl

/-! ### Whole times -/

/-- **A written time is read as the reading of its clock**, whatever its year. -/
theorem scanRelaxed_chars (t : Instant) :
    scanRelaxed (t.chars .fewest) = some ((t.civil, 0), []) := by
  obtain ⟨-, hhour, hminute, hsecond, hnanos⟩ := t.civil_bounds
  have hmonth : t.civil.date.month ≤ 12 := month_ofDays_le _
  have hday : t.civil.date.day ≤ 31 := day_ofDays_le _
  have hfraction : IsFraction (fraction .fewest t.civil.nanos) t.civil.nanos :=
    isFraction_fraction .fewest hnanos
  have hseparator (rest : List Char) :
      Scan.oneOf ['t', 'T', ' '] ('T' :: rest) = some ((), rest) := rfl
  have hutc : scanRelaxedOffset ['Z'] = some (0, []) := rfl
  have hend : skipBlanks [] = some ((), []) := rfl
  rw [chars_eq, scanRelaxed, Scan.bind_of_some (scanYear_yearText _ _),
    Scan.bind_of_some (scanSeparator_cons (by decide) _),
    Scan.bind_of_some (scanShort_of_isField (isField_two (by omega)) _),
    Scan.bind_of_some (scanSeparator_cons (by decide) _),
    Scan.bind_of_some (scanShort_of_isField (isField_two (by omega)) _),
    Scan.bind_of_some (hseparator _),
    Scan.bind_of_some (scanShort_of_isField (isField_two (by omega)) _),
    Scan.bind_of_some (scanSeparator_cons (by decide) _),
    Scan.bind_of_some (scanShort_of_isField (isField_two (by omega)) _),
    Scan.bind_of_some (scanSeparator_cons (by decide) _),
    Scan.bind_of_some (scanShort_of_isField (isField_two (by omega)) _),
    Scan.bind_of_some (hfraction.scanFraction_append (by decide) (by decide) []),
    Scan.bind_of_some (skipBlanks_cons (by decide) _), Scan.bind_of_some hutc,
    Scan.bind_of_some hend]
  rfl

/-- **The relaxed reader reads every written time back.** -/
theorem parseRelaxed?_text (t : Instant) : parseRelaxed? t.text = some t := by
  have hwhole : scanRelaxed.whole (t.chars .fewest) = some (t.civil, 0) := by
    rw [Scan.whole, scanRelaxed_chars]
    rfl
  rw [parseRelaxed?, text, String.toList_ofList, hwhole]
  exact ofCivil?_civil t

end AuditFeed.Instant
