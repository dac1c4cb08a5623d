import AuditFeed.Instant.Basic

/-!
# Cursors

The place where a feed resumes. A feed walks the activity log in **windows**. A window opens at a
start and is read page by page with the provider's continuation token; the latest activity time
seen is kept along the way. A page without a continuation token closes the window, and the next one
starts at the latest time seen. Activities at exactly that time are read twice.
-/

namespace AuditFeed

/-- The place where a feed resumes. -/
structure Cursor where
  /-- The latest activity time seen in the current window. -/
  latestSeen : Option Instant
  /-- The provider's continuation token, empty once the window is exhausted. -/
  pageToken : String
  /-- Where the current window started, or where the next one starts. -/
  startAt : Option Instant
  /-- The page size that the window was opened with. -/
  pageSize : UInt32
deriving DecidableEq

namespace Cursor

/-- The place where a feed starts. -/
def initial : Cursor := ⟨none, "", none, 0⟩

/-- Is a continuation token pending? -/
def isMidWindow (c : Cursor) : Bool :=
  !c.pageToken.isEmpty

/-- Prepares for a page. A window without a start begins at `defaultStart`, and the latest time seen
is never left open. -/
def openWindow (c : Cursor) (defaultStart : Instant) : Cursor :=
  let start := c.startAt.getD defaultStart
  { c with startAt := some start, latestSeen := some (c.latestSeen.getD start) }

/-- Notes an activity time. -/
def observe (c : Cursor) (at_ : Instant) : Cursor :=
  { c with
    latestSeen := some <|
      match c.latestSeen with
      | some latest => max latest at_
      | none => at_ }

/-- Moves past a page. With a continuation token the window stays open; without one it closes, and
the start moves forward to the latest time seen. -/
def advance (c : Cursor) (next : Option String) : Cursor :=
  match next.filter (!·.isEmpty) with
  | some token => { c with pageToken := token }
  | none =>
    match c.latestSeen with
    | none => { c with pageToken := "" }
    | some latest =>
      { c with
        pageToken := ""
        latestSeen := none
        startAt := some <|
          match c.startAt with
          | some start => max start latest
          | none => latest }

end Cursor

end AuditFeed
