import AuditFeed.Instant.Rfc3339

/-!
# The time of an activity

An activity's time is documented as RFC 3339, but a single odd record must not cost the page it is
on. So the reading is total: RFC 3339 first, then whole seconds since the epoch, then the epoch.
-/

namespace AuditFeed.Instant

/-- The time that an activity's time field denotes, with blanks around it ignored. -/
def ofActivityTime (raw : String) : Instant :=
  let s := Text.trimChars raw.toList
  match parseChars? s with
  | some t => t
  | none => ((Text.signedNumber? s).bind ofSeconds?).getD epoch

end AuditFeed.Instant
