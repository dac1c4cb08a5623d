import AuditFeed.Session
import AuditFeed.Word

/-!
# Sending again

A request whose answer was lost on the way is sent again, after a pause that doubles each time and
is lengthened by chance. Nothing else is: a response of any status is an answer, a body that can be
read only once cannot be sent twice, and a caller who has cancelled waits for nothing.

## Structure

* `RetryPolicy.backoff` says how long a pause is, given the number that chance drew.
* `Network` is the other side of one request: an answer or a failure, and perhaps a caller who
  cancels while it is under way.
* `Network.send` recurses on the retries that are left, so it sends at most one request more than
  the policy has retries.
-/

namespace AuditFeed

/-! ### Policies -/

/-- How often and after how long a request is sent again. -/
structure RetryPolicy where
  /-- How often. -/
  maxRetries : Nat
  /-- The pause before the first time. -/
  base : Duration
deriving DecidableEq

namespace RetryPolicy

/-- Three times, after half a second. -/
def standard : RetryPolicy := ⟨3, .ofMillis 500⟩

/-- The pause before retry `attempt` without what chance adds: twice as long each time, up to the
sixteenth. -/
def exponential (p : RetryPolicy) (attempt : Nat) : Duration :=
  p.base.mul (Nat.pow 2 (min attempt 16))

/-- The most milliseconds that chance adds: half of the pause. -/
def jitterCeiling (p : RetryPolicy) (attempt : Nat) : Nat :=
  min ((p.exponential attempt).millis / 2) (Word.limit64 - 1)

/-- The pause before retry `attempt` where chance drew `draw`. -/
def backoff (p : RetryPolicy) (attempt draw : Nat) : Duration :=
  (p.exponential attempt).add (.ofMillis (min draw (p.jitterCeiling attempt)))

end RetryPolicy

/-! ### The network -/

/-- When a caller cancels during a request. -/
inductive Interruption where
  /-- Before the answer is there. -/
  | inFlight
  /-- Together with the answer. -/
  | withAnswer
deriving DecidableEq

/-- What becomes of a request. -/
structure Exchange where
  /-- The response, or why there is none. -/
  outcome : Except TransportError Http.Response
  /-- When the caller cancels during it, if at all. -/
  interruption : Option Interruption

/-- The other side of a request, and the source of chance. -/
structure Network (ω : Type) where
  /-- What becomes of a request. -/
  exchange : Http.Request → ω → Exchange × ω
  /-- A number drawn by chance. -/
  draw : ω → Nat × ω

namespace Network

variable {ω : Type}

/-- The failure of a request that reaches nobody. -/
def unreachable : TransportError := .ofMessage "request failed"

/-- A network that reaches nobody, where chance always draws zero. -/
def offline : Network ω where
  exchange _ peer := (⟨.error unreachable, none⟩, peer)
  draw peer := (0, peer)

/-- Sends a request once. -/
def sendOnce (net : Network ω) (request : Http.Request) :
    Call ω RequestError (Except TransportError Http.Response) := do
  let s ← get
  if s.cancelled then throw .cancelled
  let (answer, peer) := net.exchange request s.peer
  let s := { s with peer }.note (.attempt request)
  match answer.interruption with
  | some .inFlight =>
    set s.cancel
    throw .cancelled
  | some .withAnswer => set s.cancel
  | none => set s
  return answer.outcome

/-- Pauses before retry `attempt`. -/
def pause (net : Network ω) (policy : RetryPolicy) (attempt : Nat) : Call ω RequestError Unit := do
  let s ← get
  if s.cancelled then throw .cancelled
  let (draw, peer) := net.draw s.peer
  let s := { s with peer }.pause (policy.backoff attempt draw)
  set s
  if s.cancelled then throw .cancelled

/-- Sends a request with so many retries left, the next of them with the number `attempt`. -/
def sendFrom (net : Network ω) (policy : RetryPolicy) (request : Http.Request) :
    Nat → Nat → Call ω RequestError Http.Response
  | left, attempt => do
    match ← net.sendOnce request with
    | .ok response => return response
    | .error e =>
      match left with
      | 0 => throw (.transport e)
      | left + 1 =>
        if e.isTransient && request.body.isReplayable then
          net.pause policy attempt
          net.sendFrom policy request left (attempt + 1)
        else throw (.transport e)

/-- Sends a request. -/
def send (net : Network ω) (policy : RetryPolicy) (request : Http.Request) :
    Call ω RequestError Http.Response :=
  net.sendFrom policy request policy.maxRetries 0

end Network

end AuditFeed
