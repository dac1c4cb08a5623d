import AuditFeed.Event
import AuditFeed.Http.Message
import AuditFeed.Token

/-!
# Sessions

What the connector knows while it works, as plain data: whether the caller has cancelled, what was
done so far, which scopes are granted and which emails are resolved.

## The other side

The directory, the activity log and the token endpoint are not modelled. Their state is a value of a
type `ω` of the supplier's choice, and each answer may depend on it and change it, so a statement
about every `ω` is one about every behaviour of the other side.

## Time

The clock does not run by itself: `now` is what the clock shows during a call, and a session with
another `now` is a later call. What matters about pauses is how long they are and whether the caller
waits for their end, so a session holds the caller's **patience** instead of a time to cancel at.

## Outcomes

A call ends with a value, with an error of its own type, or, where a time leaves its range, without
an answer. The last is an `Overflow` and leaves no session behind.
-/

namespace AuditFeed

/-- What is worth noting of a call, in order. -/
inductive Step where
  /-- A request was sent. -/
  | attempt (request : Http.Request)
  /-- A pause went by. -/
  | pause (length : Duration)
  /-- The caller cancelled. -/
  | cancel
deriving DecidableEq

/-- A scope that was granted, and the token for it. -/
structure Grant where
  /-- The number of grants before it. -/
  number : Nat
  /-- The scope. -/
  scope : String
  /-- The current token. -/
  token : Token
deriving DecidableEq

/-- The grants that are kept. -/
structure Grants where
  /-- How many grants were made. -/
  count : Nat
  /-- The current ones; no two have the same scope. -/
  current : List Grant
deriving DecidableEq

namespace Grants

/-- No grants. -/
def empty : Grants := ⟨0, []⟩

/-- The grant of a scope. -/
def find? (g : Grants) (scope : String) : Option Grant :=
  g.current.find? (·.scope = scope)

/-- Keeps a grant in the place of the one of the same scope. -/
def insert (g : Grants) (grant : Grant) : Grants :=
  { g with current := grant :: g.current.filter (·.scope ≠ grant.scope) }

/-- The scopes that are granted, in order. -/
def scopes (g : Grants) : List String :=
  (g.current.map (·.scope)).mergeSort

end Grants

/-- What a lookup is remembered by. -/
abbrev LookupKey := ResourceType × String

/-- What the connector knows while it works. -/
structure Session (ω : Type) where
  /-- The other side. -/
  peer : ω
  /-- What the clock shows. -/
  now : Instant
  /-- Has the caller cancelled? -/
  cancelled : Bool
  /-- How many nanoseconds of pauses the caller still waits; `none` for all of them. -/
  patience : Option Nat
  /-- What was done, in order. -/
  trace : List Step
  /-- The scopes that are granted. -/
  grants : Grants
  /-- The answers of the directory: the id of a resource, or none for one that is gone. -/
  ids : List (LookupKey × Option String)

namespace Session

variable {ω : Type}

/-- A session in which nothing was done. -/
def start (peer : ω) (now : Instant) : Session ω :=
  ⟨peer, now, false, none, [], .empty, []⟩

/-- Notes a step. -/
def note (s : Session ω) (step : Step) : Session ω :=
  { s with trace := s.trace ++ [step] }

/-- Cancels. -/
def cancel (s : Session ω) : Session ω :=
  if s.cancelled then s else { s with cancelled := true }.note .cancel

/-- Lets a pause go by, unless the caller runs out of patience in it. -/
def pause (s : Session ω) (length : Duration) : Session ω :=
  match s.patience with
  | none => s.note (.pause length)
  | some left =>
    if 0 < length.nanos ∧ left ≤ length.nanos then s.cancel
    else { s with patience := some (left - length.nanos) }.note (.pause length)

/-- The requests that were sent. -/
def requests (s : Session ω) : List Http.Request :=
  s.trace.filterMap fun
    | .attempt r => some r
    | _ => none

end Session

/-- A step of work that may leave the range of times. -/
abbrev Run (ω : Type) := StateT (Session ω) (Except Overflow)

/-- A step of work that may fail. -/
abbrev Call (ω ε : Type) := ExceptT ε (Run ω)

namespace Call

variable {ω ε ε' α : Type}

/-- The value of a check that may leave the range of times. -/
def checked (a : Except Overflow α) : Call ω ε α :=
  ExceptT.lift (StateT.lift a)

/-- Fails where a value is an error. -/
def ofExcept (a : Except ε α) : Call ω ε α :=
  ExceptT.mk (pure a)

/-- A step with another error in the place of its own. -/
def mapError (f : ε → ε') (c : Call ω ε α) : Call ω ε' α :=
  ExceptT.mk do
    match ← c.run with
    | .ok a => return .ok a
    | .error e => return .error (f e)

/-- The outcome of a step, which then does not fail. -/
def attempt (c : Call ω ε α) : Call ω ε' (Except ε α) :=
  ExceptT.lift c.run

end Call

end AuditFeed
