import AuditFeed.Activity.Basic
import AuditFeed.Json.Shape

/-!
# Activities as JSON

How a page of the activity log is read. The provider sends 64-bit integers as strings, and some
clients of it as numbers, so both are read as the same text. A field of an unexpected type counts as
empty where a text is due. Null stands for whatever a field has when it is left out.
-/

namespace AuditFeed.Json

/-- A text, or a number as its digits; anything else that can be held is the empty text. -/
def textOrNumber : Decoder String := fun room v ↦
  if isHoldable room v then
    match v with
    | .str (some s) => some s
    | .num n => n.value?.map Number.text
    | _ => some ""
  else none

/-- A text or a number; the empty text for null. -/
def lenientText : Decoder String :=
  orDefault textOrNumber ""

/-- What identifies an activity. -/
def activityId : Decoder ActivityId :=
  ofRecord ["time", "uniqueQualifier", "applicationName", "customerId"] fun room r ↦ do
    return {
      time := ← r.defaulted room 0 lenientText ""
      uniqueQualifier := ← r.defaulted room 1 lenientText ""
      applicationName := ← r.defaulted room 2 lenientText ""
      customerId := ← r.defaulted room 3 (option string) none }

/-- Who caused an activity. -/
def actor : Decoder Actor :=
  ofRecord ["email", "profileId"] fun room r ↦ do
    return { email := ← r.optional room 0 string, profileId := ← r.optional room 1 string }

/-- A parameter. -/
def parameter : Decoder Parameter :=
  ofRecord ["name", "value", "multiValue", "intValue"] fun room r ↦ do
    return {
      name := ← r.defaulted room 0 lenientText ""
      value := ← r.defaulted room 1 (option textOrNumber) none
      multiValue := ← r.defaulted room 2 (orDefault (list string) []) []
      intValue := ← r.defaulted room 3 (option textOrNumber) none }

/-- An event of an activity. -/
def activityEvent : Decoder ActivityEvent :=
  ofRecord ["type", "name", "parameters"] fun room r ↦ do
    return {
      category := ← r.defaulted room 0 lenientText ""
      name := ← r.defaulted room 1 lenientText ""
      parameters := ← r.defaulted room 2 (orDefault (list parameter) []) [] }

/-- A record of the activity log. -/
def activity : Decoder Activity :=
  ofRecord ["id", "actor", "events"] fun room r ↦ do
    return {
      id := ← r.defaulted room 0 (orDefault activityId .empty) .empty
      actor := ← r.defaulted room 1 (orDefault actor .empty) .empty
      events := ← r.defaulted room 2 (orDefault (list activityEvent) []) [] }

/-! ### Pages -/

/-- What is looked at in what identifies an activity. -/
def activityIdShape : Shape :=
  .record [("time", .held, true), ("uniqueQualifier", .held, true),
    ("applicationName", .held, true), ("customerId", .orNull .string, true)]

/-- What is looked at in who caused an activity. -/
def actorShape : Shape :=
  .record [("email", .orNull .string, false), ("profileId", .orNull .string, false)]

/-- What is looked at in a parameter. -/
def parameterShape : Shape :=
  .record [("name", .held, true), ("value", .held, true),
    ("multiValue", .orNull (.list .string), true), ("intValue", .held, true)]

/-- What is looked at in an event of an activity. -/
def activityEventShape : Shape :=
  .record [("type", .held, true), ("name", .held, true),
    ("parameters", .orNull (.list parameterShape), true)]

/-- What is looked at in a record of the activity log. -/
def activityShape : Shape :=
  .record [("id", .orNull activityIdShape, true), ("actor", .orNull actorShape, true),
    ("events", .orNull (.list activityEventShape), true)]

/-- A page of the activity log. -/
def activityPage : Document ActivityPage where
  shape :=
    .record [("items", .orNull (.list activityShape), true),
      ("nextPageToken", .orNull .string, false)]
  decoder :=
    ofRecord ["items", "nextPageToken"] fun room r ↦ do
      return {
        items := ← r.defaulted room 0 (orDefault (list activity) []) []
        nextPageToken := ← r.optional room 1 string }

end AuditFeed.Json
