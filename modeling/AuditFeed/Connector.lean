import AuditFeed.Config
import AuditFeed.ServiceAccount.Grant
import AuditFeed.Word

/-!
# Connectors

A connector brings the parts together for one customer: its feeds share one provider, and with the
session they share its grants and its resolved emails. Making one checks the configuration and the
key and sends nothing.
-/

namespace AuditFeed

/-- A connector to one customer. -/
structure Connector (ω : Type) where
  /-- What it was told. -/
  config : ConnectorConfig
  /-- Where its feeds ask. -/
  provider : Provider ω

namespace Connector

variable {ω : Type}

/-- A connector with tokens from a given source. -/
def withTokens (config : ConnectorConfig) (tokens : TokenSource ω) (network : Network ω)
    (policy : RetryPolicy) : Connector ω :=
  ⟨config, ⟨network, policy, config.endpoints, tokens⟩⟩

/-- The refusal of credentials. -/
def badCredentials (e : AuthError) : SyncError :=
  { SyncError.ofKind .invalidArgument s!"loading credentials: {e.text}" with
    source := some e.toFault }

/-- The failure of a name that no header can hold. -/
def noClient : TransportError :=
  ⟨"failed to create HTTP client", false,
    [⟨"builder error", .plain⟩, ⟨"failed to parse header value", .plain⟩]⟩

/-- The refusal of a name under which no request can be sent. -/
def badUserAgent : SyncError :=
  { SyncError.ofKind .failedPrecondition s!"building HTTP client: {noClient.message}" with
    source := some noClient.toFault }

/-- A connector that signs with the configured key, if the configuration is right. -/
def ofConfig (config : ConnectorConfig) (files : Files) (sign : ServiceAccountKey → Signer)
    (network : Network ω) (policy : RetryPolicy) : Except SyncError (Connector ω) := do
  match config.validate with
  | .error message => throw (.ofKind .invalidArgument message)
  | .ok () =>
    if !Http.isHeaderText config.userAgent then throw badUserAgent
    let key ← (config.credentials.load files).mapError badCredentials
    let account ←
      (ServiceAccount.ofKey key config.adminEmail (sign key) network policy).mapError badCredentials
    return withTokens config account.tokens network policy

/-! ### Feeds -/

/-- The longest time that a feed can look back, in nanoseconds. -/
def longestLag : Nat := (Word.limit63 - 1) * 1000000

/-- How long ago a feed starts that has not been read. A time that is too long counts as the one
that is used unless a feed is told otherwise. -/
def lagSpan (lag : Duration) : Instant.Span :=
  if lag.nanos ≤ longestLag then lag.nanos else FeedConfig.standardLag

/-- How the feeds of a connector are read. -/
def feedConfig (c : Connector ω) : FeedConfig where
  customerId := c.config.customerId
  lag := lagSpan c.config.lag
  defaultPageSize := c.config.pageSize

/-- A feed of a connector. -/
def feed (c : Connector ω) (kind : FeedKind) : Feed ω where
  kind
  config := c.feedConfig
  source := c.provider.activities
  directory := c.provider.directory

end Connector

end AuditFeed
