import AuditFeed.Main
import AuditFeed.Script
import AuditFeed.Proofs.Base64
import AuditFeed.Proofs.Decimal.Digits
import AuditFeed.Proofs.Json.Text
import AuditFeed.Proofs.Instant.Calendar
import AuditFeed.Proofs.Instant.Rfc3339
import AuditFeed.Proofs.Cursor.Token
import AuditFeed.Proofs.Instant.Order
import AuditFeed.Proofs.Session
import AuditFeed.Proofs.Feed.Poll
import AuditFeed.Proofs.Feed.Windows
import AuditFeed.Proofs.Feed.Resume
import AuditFeed.Proofs.Resolver
import AuditFeed.Proofs.Feed.Delivery
import AuditFeed.Proofs.Calm
import AuditFeed.Proofs.Supply
import AuditFeed.Proofs.Feed.Cancellation
import AuditFeed.Proofs.Retry
import AuditFeed.Proofs.Moves
import AuditFeed.Proofs.Feed.Silence
import AuditFeed.Proofs.Feed.Memory
import AuditFeed.Proofs.Text.Form
import AuditFeed.Proofs.Url
import AuditFeed.Proofs.Feed.Continuation
import AuditFeed.Proofs.Feed.Adjacent
import AuditFeed.Proofs.Feed.Collect
import AuditFeed.Proofs.Json.Shape
import AuditFeed.Proofs.Activity.Json
import AuditFeed.Proofs.Feed.Records
import AuditFeed.Proofs.Instant.Range
import AuditFeed.Proofs.RateLimit
import AuditFeed.Proofs.ServiceAccount
import AuditFeed.Proofs.Grants.Asking
import AuditFeed.Proofs.Grants.Keeping
import AuditFeed.Proofs.Fault
import AuditFeed.Proofs.Error.Response
import AuditFeed.Proofs.Error.Wrapping
import AuditFeed.Proofs.Resolver.History
import AuditFeed.Proofs.Instant.Before
import AuditFeed.Proofs.Feed.Lag
import AuditFeed.Proofs.Error.Classification
import AuditFeed.Proofs.Duration
import AuditFeed.Proofs.Backoff
import AuditFeed.Proofs.Instant.Since
import AuditFeed.Proofs.RateLimit.Hint
import AuditFeed.Proofs.Activity.Usage
import AuditFeed.Proofs.Instant.Relaxed
import AuditFeed.Proofs.Event
import AuditFeed.Proofs.Url.Domain
import AuditFeed.Proofs.Url.Path
import AuditFeed.Proofs.Lookup
import AuditFeed.Proofs.Json.Alike
import AuditFeed.Proofs.Activity.Numbers
import AuditFeed.Proofs.Feed.Numbers
import AuditFeed.Proofs.ServiceAccount.Assertion
import AuditFeed.Proofs.Text.Blank
import AuditFeed.Proofs.ServiceAccount.Pem
import AuditFeed.Proofs.Connector
import AuditFeed.Proofs.Error.Flattening
import AuditFeed.Proofs.Instant.Grammar
import AuditFeed.Proofs.Instant.Activity
import AuditFeed.Proofs.Grants.Refreshing
