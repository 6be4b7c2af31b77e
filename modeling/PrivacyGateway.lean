import PrivacyGateway.Strings
import PrivacyGateway.Separated
import PrivacyGateway.Scan
import PrivacyGateway.Substitution
import PrivacyGateway.Positions
import PrivacyGateway.Spans
import PrivacyGateway.Raising
import PrivacyGateway.Sessions
import PrivacyGateway.Errors
import PrivacyGateway.StdLib
import PrivacyGateway.JsonText
import PrivacyGateway.Decisions
import PrivacyGateway.Find
import PrivacyGateway.Tokenization
import PrivacyGateway.Minting
import PrivacyGateway.Rehydration
import PrivacyGateway.Mediator
import PrivacyGateway.RoundTrip
import PrivacyGateway.Conflicts
import PrivacyGateway.Irreversibility
import PrivacyGateway.Handler
import PrivacyGateway.Summaries
import PrivacyGateway.DetectionEvaluation
import PrivacyGateway.Outcomes
import PrivacyGateway.Paths
import PrivacyGateway.FailClosed
import PrivacyGateway.Noninterference
import PrivacyGateway.ResponseScan
import PrivacyGateway.HashChain
import PrivacyGateway.Runs
import PrivacyGateway.SqlValues
import PrivacyGateway.JsonAccess
import PrivacyGateway.JsonLoads
import PrivacyGateway.JsonDump
import PrivacyGateway.JsonRoundTrip
import PrivacyGateway.Adapters
import PrivacyGateway.AuditLog
import PrivacyGateway.Verification
import PrivacyGateway.LaterAppends
import PrivacyGateway.Tampering
import PrivacyGateway.Verdicts
import PrivacyGateway.Statements
import PrivacyGateway.Masking
import PrivacyGateway.Authenticity
import PrivacyGateway.Rollback
import PrivacyGateway.Writers
import PrivacyGateway.CheckpointOrder
import PrivacyGateway.Timestamps
import PrivacyGateway.RecordOrder
import PrivacyGateway.CheckpointFile
import PrivacyGateway.CheckpointSaves
import PrivacyGateway.SharedStore
import PrivacyGateway.JsonCompact
import PrivacyGateway.ReadLog
import PrivacyGateway.AuditEndpoints
import PrivacyGateway.Requests
import PrivacyGateway.Application
import PrivacyGateway.ContentHashes
import PrivacyGateway.VerifyEndpoint
import PrivacyGateway.ProviderClients
import PrivacyGateway.Quotations
import PrivacyGateway.AttackEvaluation
import PrivacyGateway.AuditKeys
import PrivacyGateway.PolicyFile
import PrivacyGateway.Startup
import PrivacyGateway.PublicKey
import PrivacyGateway.ListedChain
import PrivacyGateway.Traffic
import PrivacyGateway.Progress
