import AuditFeed.Fault
import AuditFeed.Json.Decode
import AuditFeed.RateLimit

/-!
# Errors of one request

A request fails in one of five ways: the provider answers with an error, no answer arrives, the
answer cannot be read, the caller cancels, or there is no token to send. The last holds an error of
its own, which in turn can be a failed request, so the two types are defined together.
-/

namespace AuditFeed

/-- No response was received. -/
structure TransportError where
  /-- What happened. -/
  message : String
  /-- Does the network layer know the failure to be temporary? -/
  temporary : Bool
  /-- What caused it. -/
  causes : List Link
deriving DecidableEq

namespace TransportError

/-- A failure without a cause. -/
def ofMessage (message : String) : TransportError := ⟨message, false, []⟩

/-- The failure as a link of a chain. -/
def link (e : TransportError) : Link := ⟨e.message, .transport e.temporary⟩

/-- The failure with its causes. -/
def toFault (e : TransportError) : Fault := ⟨e.link, e.causes⟩

/-- May the request be sent again? -/
def isTransient (e : TransportError) : Bool := e.toFault.isTransient

end TransportError

/-- The provider answered with an error. -/
structure ApiError where
  /-- The status of the response. -/
  status : Nat
  /-- The provider's message, or the body if it is of another shape. -/
  message : String
  /-- The first reason that the provider gave. -/
  reason : Option String
  /-- What the response said about its rate limit. -/
  rateLimit : Option RateLimit
deriving DecidableEq

namespace Json

/-- A provider's error: its message and the first of its reasons. -/
def apiError : Decoder (String × Option String) :=
  ofRecord ["error"] fun room r ↦ r.required room 0 body
where
  /-- The error inside its envelope. -/
  body : Decoder (String × Option String) :=
    ofRecord ["message", "errors"] fun room r ↦ do
      let message ← r.defaulted room 0 string ""
      let reasons ← r.defaulted room 1 (list item) []
      return (message, reasons.findSome? id)
  /-- One of the details of an error: its reason. -/
  item : Decoder (Option String) :=
    ofRecord ["reason"] fun room r ↦ r.optional room 0 string

end Json

namespace ApiError

/-- The error that a status and a body denote. A body of another shape is the message. -/
def ofBody (status : Nat) (body : String) : ApiError :=
  match Json.apiError.parse body with
  | .ok (message, reason) => ⟨status, message, reason, none⟩
  | .error _ => ⟨status, Text.trim body, none, none⟩

/-- What the error says. -/
def text (e : ApiError) : String :=
  s!"googleapi: Error {e.status}: {e.message}"

end ApiError

mutual

/-- A request that failed. -/
inductive RequestError where
  /-- The provider answered with an error. -/
  | api (e : ApiError)
  /-- No response was received. -/
  | transport (e : TransportError)
  /-- The response could not be read. -/
  | decode (e : Json.Error)
  /-- The caller cancelled. -/
  | cancelled
  /-- There was no token to send. -/
  | auth (e : AuthError)

/-- A token that could not be had. -/
inductive AuthError where
  /-- The scope is not granted to the subject. -/
  | unauthorized (scope message : String)
  /-- The token endpoint answered with another error. -/
  | rejected (status : Nat) (message : String)
  /-- The service account key is missing or unusable. -/
  | invalidKey (message : String)
  /-- The request for the token failed. -/
  | request (e : RequestError)

end

mutual

/-- What a failed request says. -/
def RequestError.text : RequestError → String
  | .api e => e.text
  | .transport e => s!"transport error: {e.message}"
  | .decode e => s!"failed to decode response: {e.message}"
  | .cancelled => "request cancelled"
  | .auth e => e.text

/-- What a missing token says. -/
def AuthError.text : AuthError → String
  | .unauthorized scope message => s!"unauthorized for scope {scope}: {message}"
  | .rejected status message => s!"token request rejected ({status}): {message}"
  | .invalidKey message => s!"invalid service account key: {message}"
  | .request e => s!"token request failed: {e.text}"

end

mutual

/-- What caused a failed request. -/
def RequestError.causes : RequestError → List Link
  | .api _ => []
  | .transport e => e.toFault.chain
  | .decode e => [⟨e.detail, .plain⟩]
  | .cancelled => []
  | .auth e => e.causes

/-- What caused a missing token. -/
def AuthError.causes : AuthError → List Link
  | .request e => ⟨e.text, .plain⟩ :: e.causes
  | _ => []

end

/-- A failed request with its causes. -/
def RequestError.toFault (e : RequestError) : Fault := ⟨⟨e.text, .plain⟩, e.causes⟩

/-- A missing token with its causes. -/
def AuthError.toFault (e : AuthError) : Fault := ⟨⟨e.text, .plain⟩, e.causes⟩

/-- A provider's error, which has no cause. -/
def ApiError.toFault (e : ApiError) : Fault := ⟨⟨e.text, .plain⟩, []⟩

/-- Is the scope not granted? -/
def AuthError.isUnauthorized : AuthError → Bool
  | .unauthorized .. => true
  | _ => false

end AuditFeed
