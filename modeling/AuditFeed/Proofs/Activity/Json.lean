import AuditFeed.Activity.Json
import AuditFeed.Proofs.Json.Shape

/-!
# What fits a record of the activity log

The decoders of a record and of its parts take exactly their shapes (`Json.takes_activity`). The
shapes show which fields are read leniently and which are not: a text that is `held` may be of any
kind, and one that is a `string` may not.

## Shapes of parts

Each decoder is put together from decoders of its fields in the way that its shape is from theirs,
so one lemma for each way of putting together is all that is needed, and the statement for a part is
a term in these. Whoever changes how a field is read changes one name in a shape.

## Pages

A page is read record by record, and a record that is not read is one of the page
(`Json.IsPage.parse_eq_ok_iff`). So a field that is not read leniently has a say in whether anything
of a page is read (`Json.IsPage.exists_parse_iff`). `Json.IsPage` says which text is a page without
asking anything of the records, since what they hold is the question: it looks at the members that a
page has of its own.

## Main statements

* `Json.takes_activity`: a record is read exactly if it fits.
* `Json.IsPage.parse_eq_ok_iff`, `Json.IsPage.exists_parse_iff`: when a page is read, and as what.
-/

namespace AuditFeed.Json

/-! ### Texts -/

/-- A text or a number is read from whatever can be held. -/
theorem takes_textOrNumber : textOrNumber.Takes .held := by
  intro room v
  constructor
  · intro h
    rw [textOrNumber.eq_def] at h
    by_cases hheld : isHoldable room v = true
    · exact .held hheld
    · rw [if_neg hheld] at h
      cases h
  · intro hfits
    cases hfits with
    | held h =>
      rw [textOrNumber.eq_def, if_pos h]
      cases v with
      | num n => rwa [Option.isSome_map]
      | str s => cases s <;> rfl
      | _ => rfl

/-- Null can be held, so a shape that holds anything need not allow for it. -/
theorem fits_orNull_held {room : Nat} {v : Value} :
    (Shape.orNull .held).Fits room v ↔ Shape.held.Fits room v := by
  constructor
  · intro hfits
    cases hfits with
    | null => exact .held rfl
    | some hfits => exact hfits
  · exact .some

theorem takes_lenientText : lenientText.Takes .held := by
  intro room v
  rw [← fits_orNull_held]
  exact takes_textOrNumber.orDefault "" room v

/-- So is one that may be null. -/
theorem takes_option_textOrNumber : (option textOrNumber).Takes .held := by
  intro room v
  rw [← fits_orNull_held]
  exact takes_textOrNumber.option room v

/-! ### Records -/

open Record

theorem takes_activityId : activityId.Takes activityIdShape :=
  takes_ofRecord rfl fun _ _ ↦
    isSome_bind_field (isSome_defaulted takes_lenientText _) fun _ ↦
    isSome_bind_field (isSome_defaulted takes_lenientText _) fun _ ↦
    isSome_bind_field (isSome_defaulted takes_lenientText _) fun _ ↦
    isSome_bind_field (isSome_defaulted takes_string.option _) fun _ ↦ isSome_pure_fields

theorem takes_actor : actor.Takes actorShape :=
  takes_ofRecord rfl fun _ _ ↦
    isSome_bind_field (isSome_optional takes_string) fun _ ↦
    isSome_bind_field (isSome_optional takes_string) fun _ ↦ isSome_pure_fields

/-- A parameter is read strictly in its values of several texts. -/
theorem takes_parameter : parameter.Takes parameterShape :=
  takes_ofRecord rfl fun _ _ ↦
    isSome_bind_field (isSome_defaulted takes_lenientText _) fun _ ↦
    isSome_bind_field (isSome_defaulted takes_option_textOrNumber _) fun _ ↦
    isSome_bind_field (isSome_defaulted (takes_string.list.orDefault []) _) fun _ ↦
    isSome_bind_field (isSome_defaulted takes_option_textOrNumber _) fun _ ↦ isSome_pure_fields

theorem takes_activityEvent : activityEvent.Takes activityEventShape :=
  takes_ofRecord rfl fun _ _ ↦
    isSome_bind_field (isSome_defaulted takes_lenientText _) fun _ ↦
    isSome_bind_field (isSome_defaulted takes_lenientText _) fun _ ↦
    isSome_bind_field (isSome_defaulted (takes_parameter.list.orDefault []) _) fun _ ↦
    isSome_pure_fields

/-- **A record is read exactly if it fits.** -/
theorem takes_activity : activity.Takes activityShape :=
  takes_ofRecord rfl fun _ _ ↦
    isSome_bind_field (isSome_defaulted (takes_activityId.orDefault _) _) fun _ ↦
    isSome_bind_field (isSome_defaulted (takes_actor.orDefault _) _) fun _ ↦
    isSome_bind_field (isSome_defaulted (takes_activityEvent.list.orDefault []) _) fun _ ↦
    isSome_pure_fields

/-! ### Pages -/

/-- What a page says of the next one: nothing, null or its token. -/
inductive NamesNext : Option Value → Option String → Prop
  | absent : NamesNext none none
  | null : NamesNext (some .null) none
  | token {token : String} : NamesNext (some (.str (some token))) (some token)

/-- Is a text a page with these records and this token of the next page? Nothing is asked of the
records. -/
def IsPage (text : String) (records : List Value) (next : Option String) : Prop :=
  ∃ ms, Json.parse text = .ok (.obj ms) ∧ (∀ m ∈ ms, m.1.isSome = true) ∧
    uniqueMember "items" ms = some (some (.arr records)) ∧
    ∃ o, uniqueMember "nextPageToken" ms = some o ∧ NamesNext o next

/-- The room that is left for a record, inside of a page and of the array of its records. -/
def recordRoom : Nat := maxDepth - 2

namespace IsPage

variable {text : String} {records : List Value} {next : Option String}

/-- What a page denotes is what each of its records denotes, and the token as it is. -/
theorem exists_decoder_eq (h : IsPage text records next) :
    ∃ v, Json.parse text = .ok v ∧ activityPage.decoder maxDepth v =
      (records.mapM (activity recordRoom)).map fun items ↦ ⟨items, next⟩ := by
  obtain ⟨ms, hread, htext, hitems, o, htoken, hnext⟩ := h
  refine ⟨_, hread, ?_⟩
  have hrecord : record ["items", "nextPageToken"] (.obj ms) =
      some ⟨[some (.arr records), o], false⟩ := by
    rw [record_obj, if_pos (List.all_eq_true.2 htext), List.mapM_cons, hitems, List.mapM_cons,
      htoken]
    rfl
  have htoken' :
      (⟨[some (.arr records), o], false⟩ : Record).optional 126 1 string = some next := by
    cases hnext <;> rfl
  -- The page takes one level of nesting and the array of its records another one.
  show ((record ["items", "nextPageToken"] (.obj ms)).bind fun r ↦ do
    return (⟨← r.defaulted 126 0 (orDefault (list activity) []) [], ← r.optional 126 1 string⟩ :
      ActivityPage)) = _
  rw [hrecord, Option.bind_some, htoken']
  show (records.mapM (activity recordRoom)).bind _ = _
  cases records.mapM (activity recordRoom) <;> rfl

/-- **A page is read if each of its records is**, with the token of the next page as it is. -/
theorem parse_eq_ok_iff (h : IsPage text records next) {page : ActivityPage} :
    activityPage.parse text = .ok page ↔ page.nextPageToken = next ∧
      List.Forall₂ (fun v a ↦ activity recordRoom v = some a) records page.items := by
  obtain ⟨v, hread, hdecoder⟩ := h.exists_decoder_eq
  rw [Document.parse_eq_ok_iff hread, hdecoder, Option.map_eq_some_iff]
  constructor
  · rintro ⟨items, hitems, rfl⟩
    exact ⟨rfl, mapM_eq_some_iff.1 hitems⟩
  · rintro ⟨hnext, hitems⟩
    refine ⟨page.items, mapM_eq_some_iff.2 hitems, ?_⟩
    rw [← hnext]

/-- **A page is read exactly if all of its records fit.** -/
theorem exists_parse_iff (h : IsPage text records next) :
    (∃ page, activityPage.parse text = .ok page) ↔
      ∀ v ∈ records, activityShape.Fits recordRoom v := by
  obtain ⟨v, hread, hdecoder⟩ := h.exists_decoder_eq
  simp only [Document.parse_eq_ok_iff hread, ← takes_activity recordRoom _]
  rw [← isSome_mapM_iff, ← Option.isSome_iff_exists, hdecoder, Option.isSome_map]

end IsPage

end AuditFeed.Json
