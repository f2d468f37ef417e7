import SqlProxy.Base.ByteText
import SqlProxy.Base.CallProgram
import SqlProxy.Base.Machine
import SqlProxy.Base.Monitor
import SqlProxy.Base.MonitorProgress
import SqlProxy.Base.Lockstep
import SqlProxy.Base.Utf8
import SqlProxy.Base.Json
import SqlProxy.Base.CompactJson
import SqlProxy.Base.JsonPrefix
import SqlProxy.Base.Lines
import SqlProxy.Base.Calendar
import SqlProxy.Base.CivilDate
import SqlProxy.Base.FixedWidth
import SqlProxy.Base.Integers
import SqlProxy.PortTypes
import SqlProxy.HyriseAdapter
import SqlProxy.SqlAnalyzer
import SqlProxy.PolicyEngine
import SqlProxy.DataClassifier
import SqlProxy.PiiMasker
import SqlProxy.MaskerChecks
import SqlProxy.AuditRecord
import SqlProxy.ProxyService
import SqlProxy.ReadPath
import SqlProxy.Outcomes
import SqlProxy.Authorization
import SqlProxy.FailClosed
import SqlProxy.NameResolution
import SqlProxy.PiiSoundness
import SqlProxy.Noninterference
import SqlProxy.CommittedWrites
import SqlProxy.Interleaving
import SqlProxy.JsonlAudit
import SqlProxy.AppendRuns
import SqlProxy.LiteralBlindness
import SqlProxy.Routes
import SqlProxy.HttpAgreement
import SqlProxy.AuditCodec
import SqlProxy.PostgresQueryExecutor
import SqlProxy.SuccessRecord
import SqlProxy.SystemTables
import SqlProxy.MaskerContract
import SqlProxy.DenialUniformity
import SqlProxy.MappingConfig
import SqlProxy.AttributionModes
import SqlProxy.ProjectionFacts
import SqlProxy.Timestamps
import SqlProxy.TableMetadata
import SqlProxy.Config
import SqlProxy.PostgresTransaction
import SqlProxy.Deployment
import SqlProxy.ServedRequests
import SqlProxy.AuditTrail
import SqlProxy.AuditRecovery
import SqlProxy.DatabaseRuns
import SqlProxy.RecordTruth
import SqlProxy.AuditLedger
import SqlProxy.Disguise
import SqlProxy.DatabaseSecrecy
import SqlProxy.AuditBlindness
import SqlProxy.Startup
