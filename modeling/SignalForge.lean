import SignalForge.DatasetWriterConservation
import SignalForge.ParserPipelineBodies
import SignalForge.RealtimePipelineIsolation
import SignalForge.ReplayIsolation
import SignalForge.TcpReassemblerDirections
import SignalForge.TcpReassemblerRenumbering
import SignalForge.WindowContract
import SignalForge.WindowConvergence
import SignalForge.AlertDelivery
import SignalForge.LoggingAdapters
import SignalForge.FeatureSnapshots
import SignalForge.SchemaRegistry
import SignalForge.WindowExactness
import SignalForge.WindowRefusal
import SignalForge.WindowRetention
import SignalForge.WatermarkRejection
import SignalForge.OfflineCountAgreement
import SignalForge.ProjectionRedelivery
import SignalForge.DetectorFailure
import SignalForge.OfflineDetectionExactness
import SignalForge.S3ObjectKeys
import SignalForge.DynamoDbProjectionStore
import SignalForge.FirstGreatest
import SignalForge.EventRouterResolution
import SignalForge.TextSplitting
import SignalForge.VersionGrammar
import SignalForge.SchemaResolution
import SignalForge.IngestionBoundary
import SignalForge.VersionFallback
import SignalForge.PartitionHours
import SignalForge.StableSort
import SignalForge.SerialisationOrder
import SignalForge.TcpReassemblerTimes
import SignalForge.FromHeader
import SignalForge.IdentityRoles
import SignalForge.DeviceRegistryRun
import SignalForge.AnomalyBucketKeys
import SignalForge.SinkNames
import SignalForge.TraceHeaders
import SignalForge.OfflineAlternation
import SignalForge.SpanNesting
import SignalForge.WindowRepresentation
import SignalForge.ReplayReproduction
import SignalForge.AlertRouting
import SignalForge.PipelineFrames
import SignalForge.AcknowledgementRuns
import SignalForge.AlertCompleteness
import SignalForge.PipelineWindows
import SignalForge.PassiveObservers
import SignalForge.StrictMode
import SignalForge.DashboardRouting
import SignalForge.SegmentLedger
import SignalForge.ParserObserver
import SignalForge.ParserLoops
import SignalForge.ParserReports
import SignalForge.SessionReports
import SignalForge.AnomalyOnsets
import SignalForge.LexicalScope
import SignalForge.StructuredLogging
import SignalForge.LogScoping
import SignalForge.LoggedInvocations
import SignalForge.CallRelations
import SignalForge.LogAttribution
import SignalForge.OperationPrograms
import SignalForge.StorePrograms
import SignalForge.CloudDashboards
import SignalForge.ReplayRepair
