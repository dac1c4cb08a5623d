import AuditFeed.Overflow

/-!
# Access tokens

A token is good for one scope. It counts as expired a minute before the provider says so, so that a
request does not arrive with a token that has just run out.
-/

namespace AuditFeed

/-- An access token. -/
structure Token where
  /-- The token itself. -/
  secret : String
  /-- From when on it counts as expired; `none` for never. -/
  expiresAt : Option Instant
  /-- The scope that it was issued for. -/
  scope : String
deriving DecidableEq

namespace Token

/-- How many seconds early a token counts as expired. -/
def expiryBuffer : Int := 60

/-- A token that the provider says is good for so many seconds. The time at which it expires can
leave the range of times. -/
def issue (now : Instant) (secret : String) (lifetime : Option Int) (scope : String) :
    Except Overflow Token := do
  match lifetime with
  | none => return ⟨secret, none, scope⟩
  | some seconds =>
    let ends ← Overflow.check (now.add? (← Instant.Span.checked seconds))
    let early ← Overflow.check (ends.sub? (.ofSeconds expiryBuffer))
    return ⟨secret, some early, scope⟩

/-- Is a token expired? -/
def isExpired (t : Token) (now : Instant) : Bool :=
  match t.expiresAt with
  | some time => time ≤ now
  | none => false

end Token

end AuditFeed
