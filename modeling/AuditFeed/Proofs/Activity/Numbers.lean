import AuditFeed.Activity.Json
import AuditFeed.Proofs.Cursor.Token
import AuditFeed.Proofs.Json.Alike

/-!
# Activities with numbers for texts

A page of the activity log denotes the same with an integer of 64 bits in the place of its decimal
numeral, wherever a text is read leniently (`Json.parse_activityPage_of_alike`). An integer is never
taken for a double: it is read digit for digit, whether it has a sign or goes beyond the signed ones
(`Json.textOrNumber_int`). So an identifier that is given as a number loses none of its digits.

## Respect

A decoder respects a shape if it cannot tell values apart that are alike by that shape. As with what
fits, each part has its statement as a term in those of its fields, and the one decoder that has
something to say is `textOrNumber`. For it a number and its numeral are the same text, whatever else
it makes of other values.

## What is left out

Nothing is said of fractions and of integers beyond 64 bits. Those are read as doubles, and the text
of a double need not be the numeral that was written.

## Main statements

* `Json.textOrNumber_int`: an integer is read digit for digit.
* `Json.respects_activityPage`, `Json.parse_activityPage_of_alike`: alike texts denote one page.
-/

namespace AuditFeed.Json

/-! ### Texts -/

/-- A text is read as itself. -/
theorem textOrNumber_text (room : Nat) (s : String) : textOrNumber room (.text s) = some s := rfl

/-- The number that an integer's own numeral writes. -/
theorem map_text_value?_int {n : Int} (hn : IsWordSized n) :
    (Numeral.value? ⟨n < 0, Decimal.digits n.natAbs, [], none⟩).map Number.text =
      some (Decimal.text n) := by
  have hlimit : Word.limit64 = 2 ^ 64 := rfl
  have hhalf : Word.limit63 = 2 ^ 63 := rfl
  obtain ⟨hlow, hhigh⟩ := hn
  by_cases hneg : n < 0
  · have hcollect : Numeral.collect 0 (Decimal.digits n.natAbs) = (n.natAbs, 0) := by
      have hvalue := Decimal.digitsValue_digits n.natAbs
      rw [collect_of_le _ 0 (by rw [hvalue, Numeral.significandLimit]; omega), hvalue]
    have hsigned : 0 < n.natAbs ∧ n.natAbs ≤ Word.limit63 := by omega
    have hback : -(n.natAbs : Int) = n := by omega
    simp only [Numeral.value?, hcollect, decide_eq_true hneg, if_pos hsigned, hback]
    rfl
  · have hnat : ((n.natAbs : Nat) : Int) = n := by omega
    rw [decide_eq_false hneg, value?_digits (by omega), Option.map_some, Number.text, hnat]

/-- **An integer of 64 bits is read digit for digit.** -/
theorem textOrNumber_int {n : Int} (hn : IsWordSized n) (room : Nat) :
    textOrNumber room (.int n) = some (Decimal.text n) := by
  have hread := map_text_value?_int hn
  have hheld : isHoldable room (.int n) = true := by
    show (Numeral.value? _).isSome = true
    rw [← Option.isSome_map (f := Number.text), hread]
    rfl
  exact (if_pos hheld).trans hread

/-- **A decoder of texts and numbers cannot tell a number from its numeral.** -/
theorem respects_textOrNumber : textOrNumber.Respects .held := by
  intro room v w h
  cases h with
  | refl => rfl
  | number hn => rw [textOrNumber_text, textOrNumber_int hn]
  | numeral hn => rw [textOrNumber_text, textOrNumber_int hn]

/-- Nor can a lenient text. -/
theorem respects_lenientText : lenientText.Respects .held :=
  respects_textOrNumber.orDefault ""

/-! ### Records -/

theorem respects_activityId : activityId.Respects activityIdShape :=
  respects_ofRecord rfl fun room r s h ↦ by
    rw [h.defaulted_eq 0 rfl respects_lenientText, h.defaulted_eq 1 rfl respects_lenientText,
      h.defaulted_eq 2 rfl respects_lenientText,
      h.defaulted_eq 3 rfl (string.respects_string.option.orNull)]

theorem respects_actor : actor.Respects actorShape :=
  respects_ofRecord rfl fun room r s h ↦ by
    rw [h.optional_eq 0 rfl string.respects_string.orNull,
      h.optional_eq 1 rfl string.respects_string.orNull]

theorem respects_parameter : parameter.Respects parameterShape :=
  respects_ofRecord rfl fun room r s h ↦ by
    rw [h.defaulted_eq 0 rfl respects_lenientText,
      h.defaulted_eq 1 rfl respects_textOrNumber.option,
      h.defaulted_eq 2 rfl (string.respects_string.list.orDefault []).orNull,
      h.defaulted_eq 3 rfl respects_textOrNumber.option]

theorem respects_activityEvent : activityEvent.Respects activityEventShape :=
  respects_ofRecord rfl fun room r s h ↦ by
    rw [h.defaulted_eq 0 rfl respects_lenientText, h.defaulted_eq 1 rfl respects_lenientText,
      h.defaulted_eq 2 rfl (respects_parameter.list.orDefault []).orNull]

/-- A record cannot tell numbers from their numerals. -/
theorem respects_activity : activity.Respects activityShape :=
  respects_ofRecord rfl fun room r s h ↦ by
    rw [h.defaulted_eq 0 rfl (respects_activityId.orDefault _).orNull,
      h.defaulted_eq 1 rfl (respects_actor.orDefault _).orNull,
      h.defaulted_eq 2 rfl (respects_activityEvent.list.orDefault []).orNull]

/-- **A page cannot tell numbers from their numerals.** -/
theorem respects_activityPage : activityPage.decoder.Respects activityPage.shape :=
  respects_ofRecord rfl fun room r s h ↦ by
    rw [h.defaulted_eq 0 rfl (respects_activity.list.orDefault []).orNull,
      h.optional_eq 1 rfl string.respects_string.orNull]

/-- Texts whose values are alike denote the same page. -/
theorem parse_activityPage_of_alike {text text' : String} {v w : Value}
    (hv : Json.parse text = .ok v) (hw : Json.parse text' = .ok w)
    (h : activityPage.shape.Alike v w) {page : ActivityPage} :
    activityPage.parse text = .ok page ↔ activityPage.parse text' = .ok page := by
  rw [Document.parse_eq_ok_iff hv, Document.parse_eq_ok_iff hw, respects_activityPage _ v w h]

end AuditFeed.Json
