import AuditFeed.Grants
import AuditFeed.Json.Printer
import AuditFeed.Retry
import AuditFeed.ServiceAccount.Key
import AuditFeed.Url.Parse

/-!
# Tokens for a service account

A service account has no password to show. It signs an **assertion** that it acts for an admin, and
the token endpoint answers that with a token for one scope. An assertion is good for an hour and
holds the scope, so each token has one of its own.

The endpoint's refusals come in two kinds. That the scope is not granted to the account is an answer
about the scope, which may be had in another form; anything else is about the request.

`Signer` makes the signature; nothing else here depends on which one it is.
-/

namespace AuditFeed

/-- Signs bytes, or says why it cannot. -/
abbrev Signer := List UInt8 → Except String (List UInt8)

/-- A service account that acts for an admin. -/
structure ServiceAccount (ω : Type) where
  /-- The account's key. -/
  key : ServiceAccountKey
  /-- The bytes of the key that sign. -/
  secret : List UInt8
  /-- The admin. -/
  subject : String
  /-- Signs with the key. -/
  sign : Signer
  /-- How requests are sent. -/
  network : Network ω
  /-- How often they are sent again. -/
  policy : RetryPolicy

namespace ServiceAccount

variable {ω : Type}

/-- A service account, if its key can sign. -/
def ofKey (key : ServiceAccountKey) (subject : String) (sign : Signer) (network : Network ω)
    (policy : RetryPolicy) : Except AuthError (ServiceAccount ω) :=
  match ServiceAccountKey.secret key.privateKey with
  | .ok secret => .ok ⟨key, secret, subject, sign, network, policy⟩
  | .error fault => .error (.invalidKey s!"unusable private key: {fault}")

/-! ### Assertions -/

/-- How many seconds an assertion is good for. -/
def assertionLifetime : Int := 3600

/-- Bytes in the form of Base64 that can stand in a URL. -/
def urlBase64 (bytes : List UInt8) : List Char :=
  ((Base64.encode bytes).filter (· != Base64.pad)).map fun c ↦
    if c = '+' then '-' else if c = '/' then '_' else c

/-- What an assertion says of itself. -/
def header (key : ServiceAccountKey) : Json.Value :=
  .object <| [("typ", .text "JWT"), ("alg", .text "RS256")] ++
    match key.privateKeyId with
    | some id => [("kid", .text id)]
    | none => []

/-- What an assertion claims. -/
def claims (key : ServiceAccountKey) (subject scope : String) (now : Instant) : Json.Value :=
  .object [("iss", .text key.clientEmail), ("sub", .text subject), ("scope", .text scope),
    ("aud", .text key.tokenUri), ("iat", .int now.seconds),
    ("exp", .int (now.seconds + assertionLifetime))]

/-- What is signed: the header and the claims. -/
def unsigned (key : ServiceAccountKey) (subject scope : String) (now : Instant) : List Char :=
  urlBase64 (Text.utf8 (header key).chars) ++ '.' ::
    urlBase64 (Text.utf8 (claims key subject scope now).chars)

/-- The signature of a message, unless the account's key is none to sign with. -/
def signature (a : ServiceAccount ω) (message : List Char) : Except String (List UInt8) :=
  match Rsa.PrivateKey.read a.secret with
  | .ok _ => a.sign (Text.utf8 message)
  | .error r => .error s!"Signing failed: signature error: {r.message}"

/-- The assertion for a scope. -/
def assertion (a : ServiceAccount ω) (scope : String) (now : Instant) :
    Except AuthError String :=
  let message := unsigned a.key a.subject scope now
  match a.signature message with
  | .ok signature => .ok (String.ofList (message ++ '.' :: urlBase64 signature))
  | .error e => .error (.invalidKey s!"failed to sign assertion: {e}")

/-! ### The token endpoint -/

/-- The kind of grant that an assertion asks for. -/
def grantType : String := "urn:ietf:params:oauth:grant-type:jwt-bearer"

/-- The request for a token. -/
def tokenRequest (key : ServiceAccountKey) (assertion : String) :
    Except AuthError Http.Request :=
  match Url.parse key.tokenUri with
  | .ok url =>
    .ok { Http.Request.bare "POST" url with
      contentType := some "application/x-www-form-urlencoded"
      body := .text <| String.ofList <|
        Text.Form.encode [("grant_type", grantType), ("assertion", assertion)] }
  | .error e => .error (.invalidKey s!"invalid token_uri: {e.message}")

/-- An answer with a token: its secret and how many seconds it is good for. -/
def answerDecoder : Json.Decoder (String × Option Int) :=
  Json.ofRecord ["access_token", "expires_in"] fun room r ↦ do
    return (← r.required room 0 Json.string, ← r.optional room 1 Json.int64)

/-- An answer with an error: its code and what it says about it. -/
def errorDecoder : Json.Decoder (String × Option String) :=
  Json.ofRecord ["error", "error_description"] fun room r ↦ do
    return (← r.required room 0 Json.string,
      ← r.defaulted room 1 (Json.option Json.string) none)

/-- The code of the refusal of a scope. -/
def unauthorizedCode : String := "unauthorized_client"

/-- The refusal that an answer with an error status tells of. -/
def refusal (scope : String) (status : Nat) (body : String) : AuthError :=
  let (code, message) := match errorDecoder.parse body with
    | .ok (code, some description) => (some code, s!"{code}: {description}")
    | .ok (code, none) => (some code, code)
    | .error _ => (none, Text.trim body)
  if status = 401 ∨ code = some unauthorizedCode then .unauthorized scope message
  else .rejected status message

/-- The token that an answer holds. -/
def readAnswer (scope : String) (r : Http.Response) : Call ω AuthError Token := do
  match r.text with
  | .error e => throw (.request (.transport e))
  | .ok body =>
    if r.isSuccess then
      match answerDecoder.parse body with
      | .ok (secret, lifetime) =>
        Call.checked (Token.issue (← get).now secret lifetime scope)
      | .error e => throw (.request (.decode e))
    else throw (refusal scope r.status body)

/-- Asks for tokens with assertions. -/
def tokens (a : ServiceAccount ω) : TokenSource ω := fun scope ↦ do
  let assertion ← Call.ofExcept (a.assertion scope (← get).now)
  let request ← Call.ofExcept (tokenRequest a.key assertion)
  let response ← (a.network.send a.policy request).mapError .request
  readAnswer scope response

end ServiceAccount

end AuditFeed
