import AuditFeed.Instant.Activity

/-!
# Activities

The records of the activity log, as the provider writes them. Times and ids stay the texts they
came as; a record that cannot be read in full is still a record.
-/

namespace AuditFeed

/-- What identifies an activity. -/
structure ActivityId where
  /-- When it happened, as it came. -/
  time : String
  /-- The provider's id. -/
  uniqueQualifier : String
  /-- The log that the activity is in. -/
  applicationName : String
  /-- The customer. -/
  customerId : Option String
deriving DecidableEq

/-- Who caused an activity. -/
structure Actor where
  /-- The email. -/
  email : Option String
  /-- The durable id. -/
  profileId : Option String
deriving DecidableEq

/-- A parameter of an activity's event. -/
structure Parameter where
  /-- Its name. -/
  name : String
  /-- Its value. -/
  value : Option String
  /-- Its values, if it has several. -/
  multiValue : List String
  /-- Its value, if it is a number. -/
  intValue : Option String
deriving DecidableEq

/-- One of the events that make up an activity. -/
structure ActivityEvent where
  /-- The category. -/
  category : String
  /-- The name within the category. -/
  name : String
  /-- The parameters, in order. -/
  parameters : List Parameter
deriving DecidableEq

/-- A record of the activity log. -/
structure Activity where
  /-- What identifies it. -/
  id : ActivityId
  /-- Who caused it. -/
  actor : Actor
  /-- What happened. -/
  events : List ActivityEvent
deriving DecidableEq

/-- A page of the activity log. -/
structure ActivityPage where
  /-- The records, in order. -/
  items : List Activity
  /-- The token of the next page. -/
  nextPageToken : Option String
deriving DecidableEq

namespace ActivityId

/-- An id that says nothing. -/
def empty : ActivityId := ⟨"", "", "", none⟩

end ActivityId

namespace Actor

/-- Nobody. -/
def empty : Actor := ⟨none, none⟩

end Actor

namespace ActivityPage

/-- A page without records. -/
def empty : ActivityPage := ⟨[], none⟩

end ActivityPage

/-- The value of the first parameter of a name, without blanks around it. A blank value counts as
none, and hides the parameters of that name after it. -/
def ActivityEvent.param? (e : ActivityEvent) (name : String) : Option String := do
  let p ← e.parameters.find? (·.name = name)
  let v := Text.trim (← p.value <|> p.intValue)
  if v = "" then none else some v

/-- When an activity happened. -/
def Activity.occurredAt (a : Activity) : Instant :=
  .ofActivityTime a.id.time

end AuditFeed
