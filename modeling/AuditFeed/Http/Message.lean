import AuditFeed.Error.Request
import AuditFeed.Text.Charset
import AuditFeed.Url.Basic

/-!
# Requests and responses

What is sent and what comes back. A response is there as soon as its status and headers are; reading
its body may still fail, after any number of bytes, and counts then as a response that did not come.
-/

namespace AuditFeed.Http

/-- The body of a request. -/
inductive Body where
  | none
  /-- A text, which can be sent any number of times. -/
  | text (s : String)
  /-- A stream, which can be sent once. -/
  | stream
deriving DecidableEq

/-- Can a body be sent again? -/
def Body.isReplayable : Body → Bool
  | stream => false
  | _ => true

/-- A request. -/
structure Request where
  /-- The method. -/
  method : String
  /-- Where it goes. -/
  url : Url
  /-- The `Authorization` header. -/
  authorization : Option String
  /-- The `Accept` header. -/
  accept : Option String
  /-- The `Content-Type` header. -/
  contentType : Option String
  /-- The body. -/
  body : Body
deriving DecidableEq

/-- A request without headers and body. -/
def Request.bare (method : String) (url : Url) : Request :=
  ⟨method, url, none, none, none, .none⟩

/-- A response. -/
structure Response where
  /-- The status. -/
  status : Nat
  /-- The headers. -/
  headers : Headers
  /-- The bytes of the body that can be read. -/
  body : List UInt8
  /-- What ends the body before it is complete. -/
  broken : Option Fault
deriving DecidableEq

namespace Response

/-- Does the status tell of success? -/
def isSuccess (r : Response) : Bool :=
  200 ≤ r.status && r.status ≤ 299

/-- Is a fault one of time: is there a link that ran out of it? -/
def isTimeout (f : Fault) : Bool :=
  f.chain.any fun l ↦ l.origin = .timeout ∨ l.origin = .io .timedOut

/-- The failure to read a body. Running out of time is temporary. -/
def readingFailed (f : Fault) : TransportError :=
  let late := isTimeout f
  let reading : Link :=
    ⟨"error decoding response body", if late then .timeout else .plain⟩
  ⟨if late then "request timeout" else "failed to read response body", late, reading :: f.chain⟩

/-- The encoding of the body: the one that the `Content-Type` names, or UTF-8. -/
def charset (r : Response) : Text.Charset :=
  match r.headers.first? "content-type" with
  | some value => if value.toList.all Headers.isVisible then .ofMediaType value.toList else .utf8
  | none => .utf8

/-- The body as text. -/
def text (r : Response) : Except TransportError String :=
  match r.broken with
  | some f => .error (readingFailed f)
  | none => .ok (String.ofList (r.charset.decode r.body))

end Response

/-! ### Header values -/

/-- Can a header hold this text: no control characters but the tab? -/
def isHeaderText (s : String) : Bool :=
  s.toList.all fun c ↦ (0x20 ≤ c.toNat && c.toNat != 0x7F) || c == '\t'

end AuditFeed.Http
