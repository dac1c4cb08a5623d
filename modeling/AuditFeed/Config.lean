import AuditFeed.Feed
import AuditFeed.Files
import AuditFeed.ServiceAccount.Key

/-!
# Configuration

What a connector has to be told: whose log it reads, on whose behalf, with which key. A
configuration is checked field by field, in a fixed order, and the first field that does not fit is
named. Blanks around a field do not count for the check.
-/

namespace AuditFeed

/-- Where a service account's key comes from. -/
inductive CredentialSource where
  /-- A file. -/
  | file (path : String)
  /-- The key itself, as JSON. -/
  | inline (json : String)
deriving DecidableEq

namespace CredentialSource

/-- The key. -/
def load (c : CredentialSource) (files : Files) : Except AuthError ServiceAccountKey :=
  match c with
  | file path =>
    match files path with
    | .ok json => ServiceAccountKey.parse json
    | .error e => .error (.invalidKey s!"failed to read {path}: {e.message}")
  | inline json => ServiceAccountKey.parse json

/-- What is missing from a source, if anything is. -/
def fault (c : CredentialSource) : Option String :=
  match c with
  | file path => if path = "" then some "credentials file path is empty" else none
  | inline json => if Text.trim json = "" then some "inline credentials are empty" else none

end CredentialSource

/-- What a connector has to be told. -/
structure ConnectorConfig where
  /-- The customer. -/
  customerId : Option String
  /-- The customer's domain. -/
  domain : Option String
  /-- The admin on whose behalf the log is read. -/
  adminEmail : String
  /-- The key. -/
  credentials : CredentialSource
  /-- How long a request may take. -/
  timeout : Duration
  /-- How the connector introduces itself. -/
  userAgent : String
  /-- How long ago a feed starts that has not been read. -/
  lag : Duration
  /-- The page size for callers who ask for none. -/
  pageSize : UInt32
  /-- Where requests go. -/
  endpoints : Endpoints
deriving DecidableEq

namespace ConnectorConfig

/-- The name under which the connector introduces itself. -/
def standardUserAgent : String := "wsconnect/0.1.0"

/-- A configuration with nothing but what it cannot do without. -/
def basic (adminEmail : String) (credentials : CredentialSource) : ConnectorConfig where
  customerId := none
  domain := none
  adminEmail
  credentials
  timeout := .ofSeconds 30
  userAgent := standardUserAgent
  lag := .ofSeconds 3600
  pageSize := FeedConfig.standardPageSize
  endpoints := .standard

/-! ### Checks -/

/-- What is wrong with the customer. -/
def customerFault (c : ConnectorConfig) : Option String :=
  let customerId := Text.trim (c.customerId.getD "")
  let domain := Text.trim (c.domain.getD "")
  if customerId = "" ∧ domain = "" then some "either customer_id or domain is required"
  else if domain ≠ "" ∧ (domain.toList.contains '@' ∨ ¬ domain.toList.contains '.') then
    some ("domain " ++ Text.quoted domain ++ " is not a domain name")
  else none

/-- Is this an email: something in front of the first `@` and a dot behind it? -/
def isEmail (s : List Char) : Bool :=
  match s.dropWhile (· != '@') with
  | '@' :: host => s.head? != some '@' && host.contains '.'
  | _ => false

/-- What is wrong with the admin. -/
def adminFault (c : ConnectorConfig) : Option String :=
  let admin := Text.trim c.adminEmail
  if admin = "" then some "admin_email is required"
  else if isEmail admin.toList then none
  else some ("admin_email " ++ Text.quoted admin ++ " is not an email address")

/-- What is wrong with the page size. -/
def pageSizeFault (c : ConnectorConfig) : Option String :=
  if c.pageSize = 0 ∨ maxPageSize < c.pageSize then
    some s!"page_size must be between 1 and {maxPageSize.toNat}"
  else none

/-- What is wrong first of all. -/
def fault (c : ConnectorConfig) : Option String :=
  c.customerFault <|> c.adminFault <|> c.credentials.fault <|>
    (if c.timeout.isZero then some "timeout must be positive" else none) <|>
    (if c.lag.isZero then some "lag_window must be positive" else none) <|>
    c.pageSizeFault <|>
    (if Text.trim c.userAgent = "" then some "user_agent is required" else none)

/-- Succeeds where nothing is wrong. -/
def validate (c : ConnectorConfig) : Except String Unit :=
  match c.fault with
  | none => .ok ()
  | some message => .error message

end ConnectorConfig

end AuditFeed
