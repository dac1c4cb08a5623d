import AuditFeed.Decimal.Digits
import AuditFeed.Instant.Rfc3339

/-!
# Queries

What is asked of the activity log, and the pairs that ask it, always in the same order. A start time
is sent in milliseconds, cut off and not rounded, so that nothing after it is missed.
-/

namespace AuditFeed

/-- A request for one page of the activity log. -/
structure ActivityQuery where
  /-- The log. -/
  application : String
  /-- The customer. -/
  customerId : Option String
  /-- Where to start; asked only when a window opens. -/
  startTime : Option Instant
  /-- The token of the page, if a window is continued. -/
  pageToken : Option String
  /-- The greatest number of records. -/
  maxResults : UInt32
  /-- The only event to list. -/
  eventName : Option String
deriving DecidableEq

namespace ActivityQuery

/-- A pair whose value may be missing. -/
def pair (name : String) (value : Option String) : List (String × String) :=
  match value with
  | some v => [(name, v)]
  | none => []

/-- The pairs of the query. -/
def pairs (q : ActivityQuery) : List (String × String) :=
  pair "customerId" q.customerId ++ pair "startTime" (q.startTime.map Instant.millisText) ++
    pair "pageToken" q.pageToken ++ [("maxResults", Decimal.text q.maxResults.toNat)] ++
    pair "eventName" q.eventName

end ActivityQuery

end AuditFeed
