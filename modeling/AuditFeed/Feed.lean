import AuditFeed.Activity.Admin
import AuditFeed.Activity.Usage
import AuditFeed.Cursor.Token
import AuditFeed.Resolver

/-!
# Feeds

A poll reads one page of the activity log and answers with its events and the cursor of the next
one. A page that cannot be had is an error and moves nothing. An activity that cannot be understood,
or whose emails cannot be resolved, costs its own events only: its time counts for the cursor all
the same.

A caller who has cancelled gets no events. While a page is being interpreted, a failure counts as
the caller's doing if the caller has cancelled by then.

`ActivitySource` is where pages come from, whatever that is.
-/

namespace AuditFeed

/-- Answers a query with a page. -/
abbrev ActivitySource (ω : Type) := ActivityQuery → Call ω RequestError ActivityPage

/-- The two logs that are read. -/
inductive FeedKind where
  /-- Changes in the directory. -/
  | admin
  /-- The use of applications. -/
  | usage
deriving DecidableEq

namespace FeedKind

/-- The name of a feed. -/
def name : FeedKind → String
  | admin => "admin"
  | usage => "usage"

/-- The name of the log that a feed reads. -/
def application : FeedKind → String
  | admin => "admin"
  | usage => "token"

/-- The only event that a feed lists. -/
def eventName : FeedKind → Option String
  | admin => none
  | usage => some authorizeEvent

end FeedKind

/-- How a feed is read. -/
structure FeedConfig where
  /-- The customer to ask for. -/
  customerId : Option String
  /-- How long ago a feed starts that has not been read. -/
  lag : Instant.Span
  /-- The page size for callers who ask for none. -/
  defaultPageSize : UInt32
deriving DecidableEq

namespace FeedConfig

/-- The span that a feed looks back unless it is told otherwise: an hour. -/
def standardLag : Instant.Span := .ofSeconds 3600

/-- The page size unless a feed is told otherwise. -/
def standardPageSize : UInt32 := 100

/-- A feed that is told nothing. -/
def standard : FeedConfig := ⟨none, standardLag, standardPageSize⟩

end FeedConfig

/-- The largest page that the provider serves. -/
def maxPageSize : UInt32 := 1000

/-- What a poll brings. -/
structure PollResult where
  /-- The events, in the order of the page. -/
  events : List Event
  /-- The token of the next cursor. -/
  cursor : String
  /-- Are there more pages in the window? -/
  hasMore : Bool
deriving DecidableEq

/-- A feed. -/
structure Feed (ω : Type) where
  /-- Which log it reads. -/
  kind : FeedKind
  /-- How it reads. -/
  config : FeedConfig
  /-- Where its pages come from. -/
  source : ActivitySource ω
  /-- Where its emails are resolved. -/
  directory : Directory ω

namespace Feed

variable {ω : Type}

/-- The page size of a poll: that of the window if one is open, and else what the caller asks for or
the default. -/
def pageSize (f : Feed ω) (c : Cursor) (requested : UInt32) : UInt32 :=
  let size :=
    if c.isMidWindow && 0 < c.pageSize then c.pageSize
    else if 0 < requested then requested
    else f.config.defaultPageSize
  max 1 (min size maxPageSize)

/-- The query of a poll. It asks for a start or for a page, never for both. -/
def query (f : Feed ω) (c : Cursor) : ActivityQuery where
  application := f.kind.application
  customerId := f.config.customerId
  startTime := if c.isMidWindow then none else c.startAt
  pageToken := if c.isMidWindow then some c.pageToken else none
  maxResults := c.pageSize
  eventName := f.kind.eventName

/-- The events of the changes that an activity tells of. What is gone by now has none. -/
def changes (f : Feed ω) (a : Activity) : List PendingChange → Call ω SyncError (List Event)
  | [] => return []
  | c :: cs => do
    let id ← f.directory.resolve c.type c.email
    let rest ← f.changes a cs
    match id with
    | some id => return ⟨a.id.uniqueQualifier, a.occurredAt, .resourceChange c.type id⟩ :: rest
    | none => return rest

/-- The events of an activity. -/
def interpret (f : Feed ω) (a : Activity) : Call ω SyncError (List Event) :=
  match f.kind with
  | .admin => f.changes a a.adminChanges
  | .usage => Call.ofExcept a.usageEvents

/-- The refusal of a poll that was cancelled. -/
def cancelled (f : Feed ω) : SyncError :=
  .ofKind .unavailable s!"{f.kind.name} poll cancelled"

/-- The events of the activities of a page, and the cursor that has noted their times. -/
def interpretAll (f : Feed ω) (c : Cursor) :
    List Activity → Call ω SyncError (List Event × Cursor)
  | [] => return ([], c)
  | a :: as => do
    let outcome ← (f.interpret a).attempt
    let events ← match outcome with
      | .ok events => pure events
      | .error _ => if (← get).cancelled then throw f.cancelled else pure []
    let (rest, c) ← f.interpretAll (c.observe a.occurredAt) as
    return (events ++ rest, c)

/-- Where a feed starts that has not been read. -/
def defaultStart (f : Feed ω) (start : Option Instant) : Call ω SyncError Instant := do
  match start with
  | some time => return time
  | none => Call.checked (Overflow.check ((← get).now.sub? f.config.lag))

/-- Reads the page after a cursor. -/
def poll (f : Feed ω) (token : String) (requested : UInt32) (start : Option Instant) :
    Call ω SyncError PollResult := do
  let c ← Call.ofExcept (Cursor.decode token)
  let c := c.openWindow (← f.defaultStart start)
  let c := { c with pageSize := f.pageSize c requested }
  let page ← (f.source (f.query c)).mapError
    (·.classify s!"listing {f.kind.application} activities")
  let (events, c) ← f.interpretAll c page.items
  let c := c.advance page.nextPageToken
  return ⟨events, c.encode, c.isMidWindow⟩

end Feed

/-- The activity log of a provider. -/
def Provider.activities {ω : Type} (p : Provider ω) : ActivitySource ω := fun query ↦ do
  p.listActivities (← (Grants.obtain p.tokens Scope.activities).mapError .auth) query

end AuditFeed
