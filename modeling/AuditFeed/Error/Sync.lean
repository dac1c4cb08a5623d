import AuditFeed.Error.Request

/-!
# Errors for the caller

What a caller sees of a failure: one of ten kinds, a message, and what the provider said about its
rate limit. The caller's context always comes first in the message.
-/

namespace AuditFeed

/-- The kinds of errors that a caller tells apart. -/
inductive ErrorKind where
  | invalidArgument
  | unauthenticated
  | permissionDenied
  | notFound
  | deadlineExceeded
  | aborted
  | failedPrecondition
  | unavailable
  | unimplemented
  | unknown
deriving DecidableEq

namespace ErrorKind

/-- The name of a kind. -/
def name : ErrorKind → String
  | invalidArgument => "invalid_argument"
  | unauthenticated => "unauthenticated"
  | permissionDenied => "permission_denied"
  | notFound => "not_found"
  | deadlineExceeded => "deadline_exceeded"
  | aborted => "aborted"
  | failedPrecondition => "failed_precondition"
  | unavailable => "unavailable"
  | unimplemented => "unimplemented"
  | unknown => "unknown"

/-- Should the caller try again later? -/
def isRetryable (k : ErrorKind) : Bool :=
  k = unavailable

/-- The kind of an HTTP status. -/
def ofStatus (status : Nat) : ErrorKind :=
  match status with
  | 400 => invalidArgument
  | 401 => unauthenticated
  | 403 => permissionDenied
  | 404 | 410 => notFound
  | 408 => deadlineExceeded
  | 409 => aborted
  | 412 => failedPrecondition
  | 429 => unavailable
  | 501 => unimplemented
  | n => if 500 ≤ n ∧ n ≤ 599 then unavailable else unknown

end ErrorKind

/-- An error for the caller. -/
structure SyncError where
  /-- Its kind. -/
  kind : ErrorKind
  /-- Its message. -/
  message : String
  /-- What the provider said about its rate limit. -/
  rateLimit : Option RateLimit
  /-- What caused it. -/
  source : Option Fault
deriving DecidableEq

namespace SyncError

/-- An error without a cause. -/
def ofKind (kind : ErrorKind) (message : String) : SyncError :=
  ⟨kind, message, none, none⟩

/-- What the error says. -/
def text (e : SyncError) : String :=
  s!"{e.kind.name}: {e.message}"

/-- The error with its causes. -/
def toFault (e : SyncError) : Fault :=
  .plain e.text e.source

/-- Should the caller try again later? -/
def isRetryable (e : SyncError) : Bool :=
  e.kind.isRetryable

/-- The provider's own hint at a delay. -/
def retryAfter (e : SyncError) (now : Instant) : Option Duration :=
  e.rateLimit.bind (·.delayFrom now)

end SyncError

/-! ### From failed requests -/

/-- A message behind its context. -/
def withContext (context message : String) : String :=
  if context = "" then message else s!"{context}: {message}"

/-- What a caller is told of a provider's error: its message, behind the status where the status
says nothing by itself. -/
def ApiError.detail (e : ApiError) : String :=
  if 200 ≤ e.status ∧ e.status ≤ 299 then
    s!"unexpected success status {e.status} reported as an error: {e.message}"
  else if ErrorKind.ofStatus e.status = .unknown then
    s!"unexpected status code {e.status}: {e.message}"
  else e.message

/-- The kind of a missing token. -/
def AuthError.kind : AuthError → ErrorKind
  | .unauthorized .. => .unauthenticated
  | .rejected status _ => .ofStatus status
  | .invalidKey _ => .invalidArgument
  | .request _ => .unavailable

/-- What the caller sees of a failed request. A failure without an answer is one to try again
later. -/
def RequestError.classify (e : RequestError) (context : String) : SyncError :=
  match e with
  | .api e =>
    ⟨.ofStatus e.status, withContext context e.detail, e.rateLimit, some e.toFault⟩
  | .auth e => ⟨e.kind, withContext context e.text, none, some e.toFault⟩
  | e => ⟨.unavailable, withContext context e.text, none, some e.toFault⟩

end AuditFeed
