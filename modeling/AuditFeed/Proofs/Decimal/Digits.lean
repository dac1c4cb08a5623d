import AuditFeed.Decimal.Digits
import AuditFeed.Text.Blank
import AuditFeed.Text.Scan

/-!
# Digits read back

The digits of a number, with or without leading zeros, are digits and denote that number
(`Decimal.digitsValue_digits`, `Decimal.digitsValue_padded`). These are the facts about numerals
that every reader of numbers rests on: times, lifetimes, statuses and identifiers alike.

## Numbers with a sign

`Text.IsNumeral` says what a number with a sign may look like, as an inductive predicate that every
reader of signed numbers is characterized by (`Text.signedNumber?_eq_some_iff`). A written integer
is one of these texts (`Decimal.isNumeral_numeral`), but not the only one: zeros in front and a plus
sign are read as well.

## Widths

The widths are stated through the length of the digits, so that a bound on the number turns into one
on the numeral once (`Decimal.length_digits_le`). A padded numeral has its width exactly if the
number fits; nothing is cut off if it does not.

## Main statements

* `Text.signedNumber?_eq_some_iff`: the texts that are read as whole numbers.
* `Decimal.digitsValue_digits`, `Decimal.isNumeral_numeral`: a numeral denotes its number.
* `Decimal.digitsValue_padded`: leading zeros do not matter.
-/

namespace AuditFeed.Text

/-! ### Digits -/

theorem toNat_of_isDigit {c : Char} (h : isDigit c = true) : 48 ≤ c.toNat ∧ c.toNat ≤ 57 := by
  simpa [isDigit, Char.le_def, UInt32.le_iff_toNat_le] using h

/-- A digit is no blank. -/
theorem isBlank_of_isDigit {c : Char} (h : isDigit c = true) : isBlank c = false := by
  have hbounds := toNat_of_isDigit h
  simp only [isBlank, Bool.or_eq_false_iff, Bool.and_eq_false_iff, decide_eq_false_iff_not,
    beq_eq_false_iff_ne]
  omega

/-- A digit is less than ten. -/
theorem digitValue_lt {c : Char} (h : isDigit c = true) : digitValue c < 10 := by
  have hbounds := toNat_of_isDigit h
  have hzero : '0'.toNat = 48 := rfl
  rw [digitValue, hzero]
  omega

/-- Digits write a number below the power of ten with as many zeros. -/
theorem digitsValue_lt {ds : List Char} (h : ∀ d ∈ ds, isDigit d = true) (acc : Nat) :
    digitsValue acc ds < (acc + 1) * Nat.pow 10 ds.length := by
  induction ds generalizing acc with
  | nil =>
    show acc < (acc + 1) * 1
    omega
  | cons d ds ih =>
    have hd := digitValue_lt (h d List.mem_cons_self)
    have hnext : digitsValue acc (d :: ds) < (acc * 10 + digitValue d + 1) * Nat.pow 10 ds.length :=
      ih (fun c hc ↦ h c (List.mem_cons_of_mem d hc)) _
    have hlength : Nat.pow 10 (d :: ds).length = Nat.pow 10 ds.length * 10 := rfl
    have hgrow : (acc * 10 + digitValue d + 1) * Nat.pow 10 ds.length ≤
        (acc + 1) * 10 * Nat.pow 10 ds.length := Nat.mul_le_mul_right _ (by omega)
    rw [hlength, Nat.mul_comm (Nat.pow 10 ds.length) 10, ← Nat.mul_assoc]
    exact Nat.lt_of_lt_of_le hnext hgrow

/-! ### Numbers with a sign -/

/-- A whole number: digits, if with zeros in front, and a sign if there is one. -/
inductive IsNumeral : List Char → Int → Prop
  | plain {ds : List Char} (hne : ds ≠ []) (hds : ∀ d ∈ ds, isDigit d = true) :
      IsNumeral ds (digitsValue 0 ds)
  | plus {ds : List Char} (hne : ds ≠ []) (hds : ∀ d ∈ ds, isDigit d = true) :
      IsNumeral ('+' :: ds) (digitsValue 0 ds)
  | minus {ds : List Char} (hne : ds ≠ []) (hds : ∀ d ∈ ds, isDigit d = true) :
      IsNumeral ('-' :: ds) (-(digitsValue 0 ds : Int))

/-- The texts that are read as numbers without a sign are those of digits, if there are any. -/
theorem number?_eq_some_iff {s : List Char} {n : Nat} :
    number? s = some n ↔ s ≠ [] ∧ (∀ d ∈ s, isDigit d = true) ∧ digitsValue 0 s = n := by
  rw [number?]
  split
  · rename_i h
    rw [Option.some.injEq]
    exact ⟨fun hn ↦ ⟨h.1, List.all_eq_true.1 h.2, hn⟩, fun ⟨_, _, hn⟩ ↦ hn⟩
  · rename_i h
    refine ⟨fun hn ↦ ?_, fun ⟨hne, hds, _⟩ ↦ (h ⟨hne, List.all_eq_true.2 hds⟩).elim⟩
    cases hn

/-- **The texts that are read as whole numbers.** -/
theorem signedNumber?_eq_some_iff {s : List Char} {n : Int} :
    signedNumber? s = some n ↔ IsNumeral s n := by
  constructor
  · intro h
    rw [signedNumber?.eq_def] at h
    split at h <;> obtain ⟨_, hread, rfl⟩ := Option.map_eq_some_iff.1 h <;>
      obtain ⟨k, hk, ⟨⟩⟩ := Option.bind_eq_some_iff.1 hread <;>
      obtain ⟨hne, hds, rfl⟩ := number?_eq_some_iff.1 hk
    · exact .minus hne hds
    · exact .plus hne hds
    · exact .plain hne hds
  · intro h
    cases h with
    | @plain ds hne hds =>
      obtain ⟨d, rest, rfl⟩ := List.exists_cons_of_ne_nil hne
      have hd := hds d List.mem_cons_self
      have hminus : d ≠ '-' := by
        rintro rfl
        cases hd
      have hplus : d ≠ '+' := by
        rintro rfl
        cases hd
      rw [signedNumber?, number?_eq_some_iff.2 ⟨hne, hds, rfl⟩]
      · rfl
      · rintro _ ⟨⟩
        exact hminus rfl
      · rintro _ ⟨⟩
        exact hplus rfl
    | plus hne hds =>
      rw [signedNumber?, number?_eq_some_iff.2 ⟨hne, hds, rfl⟩]
      rfl
    | minus hne hds =>
      rw [signedNumber?, number?_eq_some_iff.2 ⟨hne, hds, rfl⟩]
      rfl

/-- A number has a sign in front only. -/
theorem IsNumeral.isDigit_of_mem_tail {s : List Char} {n : Int} (h : IsNumeral s n) {c : Char}
    (hc : c ∈ s.tail) : isDigit c = true := by
  cases h with
  | plain _ hds => exact hds c (List.mem_of_mem_tail hc)
  | plus _ hds => exact hds c hc
  | minus _ hds => exact hds c hc

/-- There are no blanks in a number. -/
theorem IsNumeral.isBlank_eq_false {s : List Char} {n : Int} (h : IsNumeral s n) {c : Char}
    (hc : c ∈ s) : isBlank c = false := by
  cases h with
  | plain _ hds => exact isBlank_of_isDigit (hds c hc)
  | plus _ hds =>
    rcases List.mem_cons.1 hc with rfl | hc
    · rfl
    · exact isBlank_of_isDigit (hds c hc)
  | minus _ hds =>
    rcases List.mem_cons.1 hc with rfl | hc
    · rfl
    · exact isBlank_of_isDigit (hds c hc)

end AuditFeed.Text

namespace AuditFeed.Decimal

open Text

/-! ### Digits in a text -/

/-- The leading digits of a text are those in front of the first character that is none. -/
theorem takeWhile_isDigit_append {ds rest : List Char} (hds : ∀ c ∈ ds, isDigit c = true)
    (hrest : ∀ c ∈ rest.head?, isDigit c = false) : (ds ++ rest).takeWhile isDigit = ds := by
  rw [List.takeWhile_append_of_pos hds]
  cases rest with
  | nil => exact List.append_nil ds
  | cons c rest =>
    have hc : ¬ isDigit c = true := Bool.eq_false_iff.1 (hrest c rfl)
    rw [List.takeWhile_cons_of_neg hc, List.append_nil]

/-! ### The numeral of a number -/

theorem digits_ne_nil (n : Nat) : digits n ≠ [] :=
  Nat.toDigits_ne_nil

/-- A number below a power of ten has no more digits than the power has zeros. -/
theorem length_digits_le {n k : Nat} (hk : 0 < k) (h : n < Nat.pow 10 k) :
    (digits n).length ≤ k :=
  (Nat.length_toDigits_le_iff (by decide) hk).2 h

theorem isDigit_of_mem_digits {n : Nat} {c : Char} (h : c ∈ digits n) : isDigit c = true := by
  have hc : c.isDigit = true := Nat.isDigit_of_mem_toDigits (by decide) (by decide) h
  simpa [isDigit, Char.isDigit, Char.le_def] using hc

/-- The value of digits is the one that the library gives them. -/
theorem digitsValue_eq_ofDigitChars (ds : List Char) (acc : Nat) :
    digitsValue acc ds = Nat.ofDigitChars 10 ds acc := by
  have hstep : (fun (n : Nat) (d : Char) ↦ n * 10 + digitValue d) =
      fun n d ↦ 10 * n + (d.toNat - '0'.toNat) := by
    funext n d
    rw [Nat.mul_comm, digitValue]
  rw [digitsValue, hstep, Nat.ofDigitChars_eq_foldl]

/-- **The digits of a number denote it.** -/
theorem digitsValue_digits (n : Nat) : digitsValue 0 (digits n) = n := by
  rw [digitsValue_eq_ofDigitChars, digits, Nat.ofDigitChars_ten_toDigits]

/-- Only zero is written with a leading zero. -/
theorem eq_zero_of_head?_digits {n : Nat} (h : (digits n).head? = some '0') : n = 0 := by
  induction n using Nat.strongRecOn with
  | ind n ih =>
    by_cases hn : n < 10
    · rw [digits, Nat.toDigits_of_lt_base hn, List.head?_cons, Option.some.injEq] at h
      have hval := Nat.toNat_digitChar_sub_48_of_lt_ten hn
      rw [h] at hval
      exact hval.symm
    · obtain ⟨d, ds, hd⟩ := List.exists_cons_of_ne_nil (digits_ne_nil (n / 10))
      have hhead : (digits (n / 10)).head? = some '0' := by
        rw [digits, Nat.toDigits_of_base_le (by decide) (by omega), ← digits, hd] at h
        rwa [hd]
      have hzero := ih (n / 10) (by omega) hhead
      omega

/-- A numeral has a leading zero only by itself. -/
theorem length_digits_of_head? {n : Nat} (h : (digits n).head? = some '0') :
    (digits n).length = 1 := by
  rw [eq_zero_of_head?_digits h]
  rfl

/-- **The numeral of an integer denotes it.** -/
theorem isNumeral_numeral (n : Int) : IsNumeral (numeral n) n := by
  have hne := digits_ne_nil n.natAbs
  have hds : ∀ d ∈ digits n.natAbs, isDigit d = true := fun _ hd ↦ isDigit_of_mem_digits hd
  have hvalue := digitsValue_digits n.natAbs
  rw [numeral]
  split
  · have hminus : -(digitsValue 0 (digits n.natAbs) : Int) = n := by omega
    have h := IsNumeral.minus hne hds
    rwa [hminus] at h
  · have hplain : (digitsValue 0 (digits n.natAbs) : Int) = n := by omega
    have h := IsNumeral.plain hne hds
    rwa [hplain] at h

/-! ### Padded numerals -/

/-- Zeros fill a numeral up to the width. -/
theorem length_padded {width n : Nat} (h : (digits n).length ≤ width) :
    (padded width n).length = width := by
  rw [padded, List.length_append, List.length_replicate]
  omega

/-- The zeros in front are digits too. -/
theorem isDigit_of_mem_padded {width n : Nat} {c : Char} (h : c ∈ padded width n) :
    isDigit c = true := by
  rcases List.mem_append.1 h with h | h
  · rw [(List.mem_replicate.1 h).2]
    rfl
  · exact isDigit_of_mem_digits h

/-- **Leading zeros do not change what a numeral denotes.** -/
theorem digitsValue_padded (width n : Nat) : digitsValue 0 (padded width n) = n := by
  rw [digitsValue_eq_ofDigitChars, padded, Nat.ofDigitChars_append,
    Nat.ofDigitChars_replicate_zero, Nat.mul_zero, digits, Nat.ofDigitChars_ten_toDigits]

end AuditFeed.Decimal
