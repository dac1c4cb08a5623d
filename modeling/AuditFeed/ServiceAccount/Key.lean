import AuditFeed.Error.Request
import AuditFeed.ServiceAccount.Pem
import AuditFeed.ServiceAccount.Rsa
import AuditFeed.Text.Quoted

/-!
# Service account keys

The key that a connector signs with, as the provider hands it out: a JSON record with the account's
email, the private key and where to ask for tokens. Reading a key checks its shape; whether it can
sign is checked when it is put to use.

A key never shows its private part.
-/

namespace AuditFeed

/-- A service account's key. -/
structure ServiceAccountKey where
  /-- The account's email. -/
  clientEmail : String
  /-- The private key as text. -/
  privateKey : String
  /-- The provider's name for the key. -/
  privateKeyId : Option String
  /-- Where tokens are had. -/
  tokenUri : String
deriving DecidableEq

namespace ServiceAccountKey

/-- Where tokens are had unless a key says otherwise. -/
def standardTokenUri : String := "https://oauth2.googleapis.com/token"

end ServiceAccountKey

namespace Json

/-- A service account's key. -/
def serviceAccountKey : Decoder ServiceAccountKey :=
  ofRecord ["client_email", "private_key", "private_key_id", "token_uri"] fun room r ↦ do
    return {
      clientEmail := ← r.required room 0 string
      privateKey := ← r.required room 1 string
      privateKeyId := ← r.defaulted room 2 (option string) none
      tokenUri := ← r.defaulted room 3 string ServiceAccountKey.standardTokenUri }

end Json

namespace ServiceAccountKey

/-- The mark of a private key's text. -/
def privateMark : List Char := "PRIVATE KEY".toList

/-- A key if it has the shape of one. -/
def check (k : ServiceAccountKey) : Except AuthError ServiceAccountKey :=
  if Text.trim k.clientEmail = "" then .error (.invalidKey "client_email is empty")
  else if !occursIn privateMark k.privateKey.toList then
    .error (.invalidKey "private_key is not a PEM private key")
  else .ok k

/-- The key that a JSON text writes. -/
def parse (json : String) : Except AuthError ServiceAccountKey :=
  match Json.serviceAccountKey.parse json with
  | .ok k => k.check
  | .error e => .error (.invalidKey s!"failed to parse key JSON: {e.message}")

/-- A text or the word for none. -/
def optionText : Option String → String
  | some s => "Some(" ++ Text.quoted s ++ ")"
  | none => "None"

/-- What may be shown of a key. -/
def redacted (k : ServiceAccountKey) : String :=
  "ServiceAccountKey \x7b client_email: " ++ Text.quoted k.clientEmail ++
    ", private_key: \"<redacted>\", private_key_id: " ++ optionText k.privateKeyId ++
    ", token_uri: " ++ Text.quoted k.tokenUri ++ " \x7d"

/-! ### Keys that can sign -/

/-- The algorithms that a key can name. -/
inductive Algorithm where
  | rsa
  | other
deriving DecidableEq

/-- The algorithm of an identifier, if it is one that keys are made for. -/
def Algorithm.ofIdentifier? (arcs : List Nat) : Option Algorithm :=
  if arcs = [1, 2, 840, 113549, 1, 1, 1] then some rsa
  else if arcs = [1, 2, 840, 10045, 2, 1] ∨ arcs = [1, 3, 101, 112] then some other
  else none

/-- The bytes that sign, or why a private key cannot sign. A document that says by its name that it
is a key of the right kind is taken at its word, and any other has to name the algorithm first of
all. -/
def secret (privateKey : String) : Except String (List UInt8) :=
  match Pem.parse privateKey.toList with
  | none => .error "InvalidKeyFormat"
  | some (name, bytes) =>
    match Der.parse bytes with
    | none => .error "InvalidKeyFormat"
    | some blocks =>
      if name = "RSA PRIVATE KEY" ∨ name = "RSA PUBLIC KEY" then .ok bytes
      else if name = "PRIVATE KEY" ∨ name = "PUBLIC KEY" ∨ name = "CERTIFICATE" then
        match (Der.identifiersOf blocks).findSome? Algorithm.ofIdentifier?, Der.dataOf blocks with
        | some .rsa, some data => .ok data
        | some .rsa, none => .error "InvalidEcdsaKey"
        | _, _ => .error "InvalidKeyFormat"
      else .error "InvalidKeyFormat"

end ServiceAccountKey

end AuditFeed
