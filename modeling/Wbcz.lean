import Wbcz.WritePipeline.Interleaving
import Wbcz.WindowsAgent.Replay
import Wbcz.WindowsAgent.Broker
import Wbcz.WritePipeline.Submission
import Wbcz.WritePipeline.AuditTrail
import Wbcz.WindowsAgent.Agreement
import Wbcz.Control.Checks
import Wbcz.Control.Attribution
import Wbcz.Web.WriteStore
import Wbcz.Web.StoreSimulation
import Wbcz.Web.Tenancy
import Wbcz.Web.JobStore
import Wbcz.Reports.Repository
import Wbcz.Reports.Retry
import Wbcz.Reports.Workers
import Wbcz.Reports.Leases
import Wbcz.Lib.Jcs
import Wbcz.Audit.Registry
import Wbcz.Audit.Sanitizer
import Wbcz.Lib.Instant
import Wbcz.Audit.Service
import Wbcz.Lib.HashChain
import Wbcz.Audit.Chain
import Wbcz.Audit.Tampering
import Wbcz.Audit.Keys
import Wbcz.Ledgers.Reconciliation
import Wbcz.Ledgers.State
import Wbcz.Ledgers.Turnover
import Wbcz.Ledgers.Aggregation
import Wbcz.Ledgers.Replay
import Wbcz.Outbox.Channels
import Wbcz.Outbox.Heads
import Wbcz.Printing.Rows
import Wbcz.Printing.Delivery
import Wbcz.Printing.Jobs
import Wbcz.Printing.Spool
import Wbcz.Printing.Moves
import Wbcz.Printing.Runs
import Wbcz.Printing.Pairs
import Wbcz.Printing.Invariant
import Wbcz.Printing.Boundary
import Wbcz.Printing.Deliverable
import Wbcz.Printing.KeyLifecycle
import Wbcz.Printing.Graph
import Wbcz.Printing.Coupling
import Wbcz.Printing.UnknownReports
import Wbcz.Printing.AgentKeys
import Wbcz.Printing.OpenedEnvelopes
import Wbcz.Lib.Interaction
import Wbcz.Control.FailClosed
import Wbcz.WindowsAgent.Executors
import Wbcz.Printing.PrintRuntime
import Wbcz.Printing.SubmitOnce
import Wbcz.Security.Rows
import Wbcz.Security.Members
import Wbcz.Security.Owners
import Wbcz.Security.StaleScopes
import Wbcz.Desktop.EventStore
import Wbcz.Desktop.Checks
import Wbcz.Desktop.Imports
import Wbcz.Integrations.SecretProvider
import Wbcz.Integrations.SecretRotation
import Wbcz.Integrations.DanglingSecrets
import Wbcz.Lib.KeyedLog
import Wbcz.PrinterProfiles.Observation
import Wbcz.PrinterProfiles.Service
import Wbcz.PrinterProfiles.Loops
import Wbcz.PrinterProfiles.Runs
import Wbcz.PrinterProfiles.Discovery
import Wbcz.PrinterProfiles.Freshness
import Wbcz.Marketplace.Workbook
import Wbcz.Marketplace.Distance
import Wbcz.Web.WbSequence
import Wbcz.Lib.Execution
import Wbcz.Desktop.LiveClient
import Wbcz.Aggregation.AtkFormation
import Wbcz.Aggregation.Boxes
import Wbcz.Aggregation.Documents
import Wbcz.Aggregation.Tree
import Wbcz.Lib.Contract
import Wbcz.Lib.IntText
import Wbcz.Lib.Url
import Wbcz.ReadJobs.Checks
import Wbcz.ReadJobs.CisInventory
import Wbcz.Lib.JsonTexts
import Wbcz.Lib.Readings
import Wbcz.Lib.SlidingWindow
import Wbcz.Lib.TokenBucket
import Wbcz.Marketplace.RateLimiter
import Wbcz.Reports.RateLimiter
import Wbcz.Turnover.Coverage
import Wbcz.Turnover.Digits
import Wbcz.Audit.SanitizerLaws
import Wbcz.Lib.CanonicalJson
import Wbcz.Lib.RedactedText
import Wbcz.Lib.Tiling
import Wbcz.Marketplace.Assembly
import Wbcz.Marketplace.Backfill
import Wbcz.ProductionHardening.OperationalSanitizer
import Wbcz.ProductionHardening.Retry
import Wbcz.ReadJobs.DocumentLifecycle
import Wbcz.ReadJobs.ReferenceProducts
import Wbcz.ReadJobs.ReportPayloads
import Wbcz.Reports.Ingress
import Wbcz.Reports.IngressLaws
import Wbcz.Reports.LocalRequests
import Wbcz.Reports.LocalSelection
import Wbcz.Lib.Grid
import Wbcz.Printing.Rasters
import Wbcz.Lib.JsonReader
import Wbcz.Lib.JcsLaws
import Wbcz.Audit.JcsValues
import Wbcz.Lib.Stretch
import Wbcz.Security.Login
import Wbcz.Security.LoginLimits
import Wbcz.Reports.GrantedRetries
import Wbcz.Lib.OrderBy
import Wbcz.Lib.Upserts
import Wbcz.Integrations.Certificates
import Wbcz.Integrations.StaleCertificates
import Wbcz.Lib.PathSegments
import Wbcz.ReadJobs.EdoLite
import Wbcz.ReadJobs.Targets
import Wbcz.ReadJobs.ScopedTargets
import Wbcz.Reports.ArtifactCipher
import Wbcz.Outbox.Runs
import Wbcz.Reports.Snapshots
