import SupportPlatform.Api.Bodies
import SupportPlatform.Api.Calls
import SupportPlatform.Api.NullErrors
import SupportPlatform.Api.Queries
import SupportPlatform.Api.Requests
import SupportPlatform.Api.Responses
import SupportPlatform.Auth.Authentication
import SupportPlatform.Auth.Expiries
import SupportPlatform.Auth.Lifetime
import SupportPlatform.Auth.Ownership
import SupportPlatform.Auth.Revocation
import SupportPlatform.Auth.RotateAtomic
import SupportPlatform.Auth.Sessions
import SupportPlatform.Auth.SingleUse
import SupportPlatform.Auth.TokenService
import SupportPlatform.Client.Badge
import SupportPlatform.Client.Failures
import SupportPlatform.Client.Forms
import SupportPlatform.Client.Lists
import SupportPlatform.Client.LogoutFinal
import SupportPlatform.Client.Navigation
import SupportPlatform.Client.Queries
import SupportPlatform.Client.RefreshFlag
import SupportPlatform.Client.RefreshQueue
import SupportPlatform.Client.RefreshRetry
import SupportPlatform.Client.Responses
import SupportPlatform.Client.ServerLogout
import SupportPlatform.Client.Tab
import SupportPlatform.Client.TicketDetail
import SupportPlatform.Client.TokenUse
import SupportPlatform.Consumers.Accounting
import SupportPlatform.Consumers.Commutation
import SupportPlatform.Consumers.ConsumerRunner
import SupportPlatform.Consumers.Delivery
import SupportPlatform.Consumers.Metrics
import SupportPlatform.Consumers.Projections
import SupportPlatform.Consumers.Recipients
import SupportPlatform.Consumers.RetryChain
import SupportPlatform.Core.Forms
import SupportPlatform.Core.History
import SupportPlatform.Core.JsNumber
import SupportPlatform.Core.Like
import SupportPlatform.Core.Machine
import SupportPlatform.Core.Numbering
import SupportPlatform.Core.Numeral
import SupportPlatform.Core.Paging
import SupportPlatform.Core.QueryString
import SupportPlatform.Core.Revisions
import SupportPlatform.Core.Routing
import SupportPlatform.Core.Splitting
import SupportPlatform.Core.Table
import SupportPlatform.Core.Timespan
import SupportPlatform.Core.Transaction
import SupportPlatform.Core.Validation
import SupportPlatform.Creation.Concurrent
import SupportPlatform.Creation.Interleaved
import SupportPlatform.Creation.References
import SupportPlatform.Creation.Serial
import SupportPlatform.Creation.Statements
import SupportPlatform.Messaging.Broker
import SupportPlatform.Messaging.Contracts
import SupportPlatform.Messaging.Dispatch
import SupportPlatform.Messaging.EventPublisher
import SupportPlatform.Messaging.Lifecycle
import SupportPlatform.Messaging.Ordering
import SupportPlatform.Messaging.Progress
import SupportPlatform.Messaging.Relay
import SupportPlatform.Messaging.RelayRun
import SupportPlatform.Notifications.ReadOnce
import SupportPlatform.Notifications.UnreadList
import SupportPlatform.Platform.Announcements
import SupportPlatform.Platform.Assignees
import SupportPlatform.Platform.AtMostOnce
import SupportPlatform.Platform.AuditTrail
import SupportPlatform.Platform.Authority
import SupportPlatform.Platform.Closings
import SupportPlatform.Platform.Confluence
import SupportPlatform.Platform.Conservation
import SupportPlatform.Platform.DailyMetrics
import SupportPlatform.Platform.Finality
import SupportPlatform.Platform.Integrity
import SupportPlatform.Platform.InternalNotes
import SupportPlatform.Platform.Isolation
import SupportPlatform.Platform.Lineage
import SupportPlatform.Platform.Listings
import SupportPlatform.Platform.Lockout
import SupportPlatform.Platform.Mediation
import SupportPlatform.Platform.NonInterference
import SupportPlatform.Platform.Permanence
import SupportPlatform.Platform.Provenance
import SupportPlatform.Platform.Replay
import SupportPlatform.Platform.Routing
import SupportPlatform.Platform.Scoping
import SupportPlatform.Platform.Snapshots
import SupportPlatform.Platform.Tenancy
import SupportPlatform.Platform.World
import SupportPlatform.Schema.Basic
import SupportPlatform.Schema.Paging
import SupportPlatform.Schema.Queries
import SupportPlatform.Schema.Statements
import SupportPlatform.Schema.Tables
import SupportPlatform.Schema.Windows
import SupportPlatform.Services.Accounts
import SupportPlatform.Services.Comments
import SupportPlatform.Services.Dto
import SupportPlatform.Services.Reads
import SupportPlatform.Services.Specs
import SupportPlatform.Services.Tickets
import SupportPlatform.Tickets.AccessPaths
import SupportPlatform.Tickets.ClosedAt
import SupportPlatform.Tickets.OpenEdits
