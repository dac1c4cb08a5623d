import AuditFeed.Feed

/-!
# Collecting a window

Polling until a window is exhausted, each poll from the cursor of the one before it. A log may go on
for ever, so the number of polls is bounded by the caller; a bound that is reached is an outcome of
its own.

A poll that fails after the caller has cancelled counts as the caller's doing.
-/

namespace AuditFeed

/-- What to poll for. -/
structure PollRequest where
  /-- The cursor of the poll before. -/
  cursor : String
  /-- The page size; zero for the feed's own. -/
  pageSize : UInt32
  /-- Where a feed starts that has not been read. -/
  start : Option Instant
  /-- Should the window be exhausted? -/
  all : Bool
deriving DecidableEq

/-- Why there is nothing collected. -/
inductive CollectError where
  /-- The caller cancelled. -/
  | interrupted
  /-- A poll failed. -/
  | failed (e : SyncError)
  /-- The polls that were allowed did not exhaust the window. -/
  | unfinished

/-- One poll, of which a failure after cancelling counts as the caller's doing. -/
def Feed.pollOnce {ω : Type} (f : Feed ω) (r : PollRequest) : Call ω CollectError PollResult := do
  match ← (f.poll r.cursor r.pageSize r.start).attempt with
  | .ok page => return page
  | .error e => if (← get).cancelled then throw .interrupted else throw (.failed e)

/-- The events of one poll or of those that exhaust the window, in at most `limit` polls. -/
def Feed.collect {ω : Type} (f : Feed ω) (r : PollRequest) : Nat → Call ω CollectError PollResult
  | 0 => throw .unfinished
  | limit + 1 => do
    let page ← f.pollOnce r
    if r.all && page.hasMore then
      let rest ← f.collect { r with cursor := page.cursor } limit
      return { rest with events := page.events ++ rest.events }
    else return page

end AuditFeed
