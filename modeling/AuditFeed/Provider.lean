import AuditFeed.Activity.Json
import AuditFeed.Activity.Query
import AuditFeed.Grants
import AuditFeed.Retry
import AuditFeed.Url.Parse

/-!
# The provider

The requests that the connector makes of its provider: a page of the activity log, and the id of a
group or a user by email. Each carries the token of a grant; the URL is read before the token is
looked at, and the token before anything is sent.

What an application or an email holds cannot leave its place in the path: it is encoded as one part
of it.
-/

namespace AuditFeed

/-- Where the provider's interface is. -/
structure Endpoints where
  /-- What all URLs start with. -/
  base : String
deriving DecidableEq

namespace Endpoints

/-- The interface at an address; slashes at its end do not count. -/
def ofBase (base : String) : Endpoints :=
  ⟨String.ofList (base.toList.reverse.dropWhile (· == '/')).reverse⟩

/-- The provider's own address. -/
def standard : Endpoints := ofBase "https://admin.googleapis.com"

/-- A log of activities. -/
def activities (e : Endpoints) (application : String) : String :=
  e.base ++ "/admin/reports/v1/activity/users/all/applications/" ++ Text.encodePart application

/-- The group with an email. -/
def group (e : Endpoints) (email : String) : String :=
  e.base ++ "/admin/directory/v1/groups/" ++ Text.encodePart email

/-- The user with an email. -/
def user (e : Endpoints) (email : String) : String :=
  e.base ++ "/admin/directory/v1/users/" ++ Text.encodePart email

end Endpoints

/-- What a directory says of an email. -/
inductive Lookup where
  /-- The id of the resource. -/
  | found (id : String)
  /-- There is no such resource, or no longer. -/
  | absent
deriving DecidableEq

namespace Json

/-- An entry of the directory: its id. -/
def directoryEntry : Document String where
  shape := .record [("id", .string, false)]
  decoder := ofRecord ["id"] fun room r ↦ r.required room 0 string

end Json

/-- The URL that a text writes, as a part of a request. -/
def requestUrl {ω : Type} (raw : String) : Call ω RequestError Url :=
  match Url.parse raw with
  | .ok url => return url
  | .error e => throw (.transport ⟨s!"invalid url {raw}", false, [⟨e.message, .plain⟩]⟩)

/-- The provider, as one connector sees it. -/
structure Provider (ω : Type) where
  /-- How requests are sent. -/
  network : Network ω
  /-- How often they are sent again. -/
  policy : RetryPolicy
  /-- Where they go. -/
  endpoints : Endpoints
  /-- Where tokens come from. -/
  tokens : TokenSource ω

namespace Provider

variable {ω : Type} {α : Type}

/-- The failure of a token that no header can hold. -/
def badToken : TransportError :=
  ⟨"access token is not a valid header", false, [⟨"failed to parse header value", .plain⟩]⟩

/-- The request for a URL with the token of a grant. -/
def authorized (p : Provider ω) (grant : Grant) (url : Url) : Call ω RequestError Http.Request := do
  let secret ← (Grants.bearer p.tokens grant).mapError .auth
  let authorization := s!"Bearer {secret}"
  if Http.isHeaderText authorization then
    return { Http.Request.bare "GET" url with
      authorization := some authorization, accept := some "application/json" }
  else throw (.transport badToken)

/-- What a response says, or the error that it tells of. -/
def readResponse (d : Json.Document α) (r : Http.Response) : Call ω RequestError α := do
  let rateLimit ← Call.checked (RateLimit.ofHeaders r.headers (← get).now)
  match r.text with
  | .error e => throw (.transport e)
  | .ok body =>
    if r.isSuccess then
      match d.parse body with
      | .ok a => return a
      | .error e => throw (.decode e)
    else throw (.api { ApiError.ofBody r.status body with rateLimit })

/-- Asks for a URL with the token of a grant. -/
def fetch (p : Provider ω) (d : Json.Document α) (grant : Grant) (url : Url) :
    Call ω RequestError α := do
  let request ← p.authorized grant url
  readResponse d (← p.network.send p.policy request)

/-- A page of a log. -/
def listActivities (p : Provider ω) (grant : Grant) (query : ActivityQuery) :
    Call ω RequestError ActivityPage := do
  let url ← requestUrl (p.endpoints.activities query.application)
  p.fetch Json.activityPage grant (url.addPairs query.pairs)

/-- Asks for an entry of the directory. An entry that is gone is as good as none. -/
def lookup (p : Provider ω) (grant : Grant) (raw : String) : Call ω RequestError Lookup := do
  let url ← requestUrl raw
  match ← (p.fetch Json.directoryEntry grant url).attempt with
  | .ok id => return .found id
  | .error (.api e) =>
    if e.status = 404 ∨ e.status = 410 then return .absent else throw (.api e)
  | .error e => throw e

/-- The group with an email. -/
def lookupGroup (p : Provider ω) (grant : Grant) (email : String) : Call ω RequestError Lookup :=
  p.lookup grant (p.endpoints.group email)

/-- The user with an email. -/
def lookupUser (p : Provider ω) (grant : Grant) (email : String) : Call ω RequestError Lookup :=
  p.lookup grant (p.endpoints.user email)

end Provider

end AuditFeed
