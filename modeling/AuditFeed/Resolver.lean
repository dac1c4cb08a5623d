import AuditFeed.Error.Sync
import AuditFeed.Provider
import AuditFeed.Text.Lowercase

/-!
# Resolving emails

Admin activities name what changed by email; events name it by id. Each answer of the directory is
kept for good, also the one that there is no such resource, so an email costs one lookup. A failed
lookup is not an answer and is not kept.

An email is looked up and remembered without blanks around it and in lower case.
-/

namespace AuditFeed

/-- Answers an email with what the directory says. -/
abbrev Directory (ω : Type) := ResourceType → String → Call ω RequestError Lookup

/-- The form in which an email is looked up. -/
def normalizedEmail (email : String) : String :=
  Text.lowercase (Text.trim email)

namespace Lookup

/-- The id, if there is one. -/
def id? : Lookup → Option String
  | found id => some id
  | absent => none

end Lookup

/-- The answer that is kept for a resource. -/
def Session.known? {ω : Type} (s : Session ω) (key : LookupKey) : Option (Option String) :=
  s.ids.lookup key

/-- The id of a resource; none if it is gone. -/
def Directory.resolve {ω : Type} (d : Directory ω) (type : ResourceType) (email : String) :
    Call ω SyncError (Option String) := do
  let email := normalizedEmail email
  match (← get).known? (type, email) with
  | some id => return id
  | none =>
    let answer ← (d type email).mapError (·.classify s!"resolving {type.name} {email}")
    modify fun s ↦ { s with ids := ((type, email), answer.id?) :: s.ids }
    return answer.id?

/-- The directory of a provider. Roles and applications have no email to be found by. -/
def Provider.directory {ω : Type} (p : Provider ω) : Directory ω := fun type email ↦
  match type with
  | .group => do
    p.lookupGroup (← (Grants.obtain p.tokens Scope.groups).mapError .auth) email
  | .user => do
    p.lookupUser (← (Grants.obtain p.tokens Scope.users).mapError .auth) email
  | .role | .app => return .absent

end AuditFeed
