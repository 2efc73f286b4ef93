import StockoutOps.Alerting.CounterBounds
import StockoutOps.Alerting.CounterGuards
import StockoutOps.Alerting.Recovery
import StockoutOps.Alerting.KeyBinding
import StockoutOps.Alerting.Lifecycle
import StockoutOps.Alerting.Alternation
import StockoutOps.Alerting.AttemptBudget
import StockoutOps.Alerting.DeliveryHost
import StockoutOps.Alerting.DeliveryOrder
import StockoutOps.Alerting.IntentPerEvent
import StockoutOps.Alerting.RecordRuns
import StockoutOps.Alerting.WorkerBatch
import StockoutOps.Errors
import StockoutOps.Investigation.AuditChain
import StockoutOps.Json
import StockoutOps.Investigation.IntakeIdempotency
import StockoutOps.Investigation.FailsClosed
import StockoutOps.Shadow.TerminalResults
import StockoutOps.Shadow.AuditEvents
import StockoutOps.Investigation.ServiceProgress
import StockoutOps.Alerting.RedriveCeiling
import StockoutOps.Investigation.EvidenceIdentity
import StockoutOps.Investigation.RequestHash
import StockoutOps.Alerting.ShadowAggregations
import StockoutOps.Shadow.OfficialSet
import StockoutOps.CanonicalInjectivity
import StockoutOps.Investigation.ReasoningSchema
import StockoutOps.Shadow.ComparisonLaws
import StockoutOps.Alerting.UnsupportedCitations
import StockoutOps.Shadow.CitationCoverage
import StockoutOps.Alerting.SettingsFromEnv
import StockoutOps.Alerting.Backoff
import StockoutOps.Shadow.CollectionLaws
import StockoutOps.Alerting.EvaluateRuns
