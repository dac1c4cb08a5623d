import AuditFeed.Session

/-!
# Grants

How a scope is had. A scope is asked for once and then kept: the narrow scope first, and only where
that is refused the wider one that it is the reading half of. A wider scope that is already granted
serves for the narrow one as well. Grants are never given up; their tokens are replaced when they
expire.

`TokenSource` is where tokens come from, whatever that is.
-/

namespace AuditFeed

/-- Answers a scope with a token for it. -/
abbrev TokenSource (ω : Type) := String → Call ω AuthError Token

namespace Scope

/-- The activity log, to read. -/
def activities : String := "https://www.googleapis.com/auth/admin.reports.audit.readonly"

/-- The groups of the directory, to read. -/
def groups : String := "https://www.googleapis.com/auth/admin.directory.group.readonly"

/-- The users of the directory, to read. -/
def users : String := "https://www.googleapis.com/auth/admin.directory.user.readonly"

/-- How a scope to read ends. -/
def readOnly : List Char := ".readonly".toList

/-- The scope to read and write that a scope to read is a part of. -/
def parent? (scope : String) : Option String :=
  let s := scope.toList
  let parent := s.take (s.length - readOnly.length)
  if parent ++ readOnly = s ∧ parent ≠ [] then some (String.ofList parent) else none

end Scope

namespace Grants

variable {ω : Type}

/-- The grant that serves a scope: its own or that of its parent. -/
def serving? (g : Grants) (scope : String) : Option Grant :=
  g.find? scope <|> (Scope.parent? scope).bind g.find?

/-- Asks for a token for a scope and, where that is refused, for its parent. If that fails too, the
first refusal counts. -/
def request (tokens : TokenSource ω) (scope : String) : Call ω AuthError Token := do
  match ← (tokens scope).attempt with
  | .ok token => return token
  | .error e =>
    match Scope.parent? scope with
    | some parent =>
      if e.isUnauthorized then
        match ← (tokens parent).attempt with
        | .ok token => return token
        | .error _ => throw e
      else throw e
    | none => throw e

/-- Keeps a token as a new grant of its scope. -/
def keep (token : Token) : Call ω AuthError Grant := do
  let s ← get
  let grant : Grant := ⟨s.grants.count, token.scope, token⟩
  set { s with grants := { s.grants.insert grant with count := s.grants.count + 1 } }
  return grant

/-- The grant that serves a scope, which is asked for if there is none. -/
def obtain (tokens : TokenSource ω) (scope : String) : Call ω AuthError Grant := do
  match (← get).grants.serving? scope with
  | some grant => return grant
  | none => keep (← request tokens scope)

/-- The secret of a grant's current token. An expired token is replaced first, by one for the scope
of the grant. -/
def bearer (tokens : TokenSource ω) (grant : Grant) : Call ω AuthError String := do
  let s ← get
  let held := (s.grants.find? grant.scope).getD grant
  if held.token.isExpired s.now then
    let token ← tokens held.scope
    modify fun s ↦ { s with grants := s.grants.insert { held with token } }
    return token.secret
  else return held.token.secret

end Grants

end AuditFeed
