import AuditFeed.Activity.Basic
import AuditFeed.Error.Sync
import AuditFeed.Event

/-!
# Authorizations

What an activity of the token log says about the use of applications: all of it or nothing. One
authorization that is incomplete makes the activity an error. The provider's own applications, whose
client id is their name, are left out.
-/

namespace AuditFeed

/-- The event that authorizes an application. -/
def authorizeEvent : String := "authorize"

/-- What may follow the project number in a client id. -/
def clientIdSuffix : List Char := ".apps.googleusercontent.com".toList

/-- Is this the client id of one of the provider's own applications: digits, and nothing or the
usual suffix after them? -/
def isProjectClientId (clientId : List Char) : Bool :=
  let rest := clientId.dropWhile Text.isDigit
  rest.length < clientId.length && (rest == [] || rest == clientIdSuffix)

/-- Is this one of the provider's own applications? -/
def isPrivateApp (clientId appName : String) : Bool :=
  clientId = appName && isProjectClientId clientId.toList

namespace Activity

/-- The refusal of an activity that lacks something. -/
def lacking (a : Activity) (what : String) : SyncError :=
  .ofKind .invalidArgument s!"activity {a.id.uniqueQualifier}: missing {what}"

/-- A parameter that an event has to have. -/
def need (a : Activity) (e : ActivityEvent) (name : String) : Except SyncError String :=
  match e.param? name with
  | some v => .ok v
  | none => .error (a.lacking name)

/-- The user behind an activity, with an email and a durable id. -/
def actorRef (a : Activity) : Except SyncError ActorRef :=
  match a.actor.profileId, a.actor.email with
  | some id, some email => if id = "" then .error (a.lacking "actor") else .ok ⟨id, email⟩
  | _, _ => .error (a.lacking "actor")

/-- What one event of an activity says about the use of applications. -/
def authorization (a : Activity) (e : ActivityEvent) : Except SyncError (List Event) :=
  if e.name ≠ authorizeEvent then .ok []
  else do
    let clientId ← a.need e "client_id"
    let appName ← a.need e "app_name"
    if isPrivateApp clientId appName then return []
    let actor ← a.actorRef
    return [⟨a.id.uniqueQualifier, a.occurredAt, .usage ⟨.app, clientId, some appName⟩ actor⟩]

/-- What an activity of the token log says about the use of applications, in order. -/
def usageEvents (a : Activity) : Except SyncError (List Event) :=
  return (← a.events.mapM a.authorization).flatten

end Activity

end AuditFeed
