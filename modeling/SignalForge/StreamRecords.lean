import SignalForge.Binary64
import SignalForge.DatetimeText
import SignalForge.Identity
import SignalForge.OrderedDict

/-! The records the stages of the streaming pipeline pass on. Emission and feature values
are of any type. -/

set_option autoImplicit false

namespace SignalForge

/-- The parts of an event the streaming layer touches. -/
structure TelemetryEvent (π : Type) where
  eventId : Uuid
  eventType : String
  schemaVersion : String
  traceId : Uuid
  eventTimestamp : Datetime
  payload : π

inductive EventClassification where
  | onTime
  | lateTolerated
  | lateDropped
  deriving DecidableEq, Repr

structure WindowEmission (ρ : Type) where
  partitionKey : String
  aggregationName : String
  windowStart : Datetime
  windowEnd : Datetime
  value : ρ
  eventCount : Nat
  isRepair : Bool
  lastContributingTraceId : Option String
  deriving DecidableEq

inductive DetectionSeverity where
  | info
  | warning
  | critical
  deriving DecidableEq, Repr

/-- A value of the open map a detection carries. -/
inductive Detail where
  | text (value : String)
  | whole (value : Int)
  | real (value : Double)
  | flag (value : Bool)
  deriving DecidableEq

structure DetectionEventPayload where
  detectionId : Uuid
  detectionType : String
  severity : DetectionSeverity
  detectedAt : Datetime
  storeId : String
  deviceId : Option Uuid
  sourceEventId : Uuid
  thresholdBreached : String
  details : OrderedDict String Detail
  deriving DecidableEq

/-- A detection but for its `ingest_timestamp`, which is stamped from the wall clock as it is built.
`traceId` is `none` where a fresh trace is drawn. -/
structure DetectionEvent where
  eventId : Uuid
  eventTimestamp : Datetime
  traceId : Option Uuid
  payload : DetectionEventPayload
  deriving DecidableEq

structure AlertEvent where
  alertId : Uuid
  detectionId : Uuid
  detectionType : String
  severity : DetectionSeverity
  routedAt : Datetime
  storeId : String
  deviceId : Option Uuid
  summary : String
  deriving DecidableEq

structure WindowedFeatureVectorPayload (ρ : Type) where
  partitionKey : String
  windowStart : Datetime
  windowEnd : Datetime
  featureValues : OrderedDict String ρ
  featureVersion : String

/-- `traceId` is `none` where a fresh trace is drawn. -/
structure WindowedFeatureVectorEvent (ρ : Type) where
  eventId : Uuid
  eventTimestamp : Datetime
  traceId : Option Uuid
  payload : WindowedFeatureVectorPayload ρ

structure ProcessingResult (ρ : Type) where
  eventId : String
  partitionKey : Option String
  classification : Option EventClassification
  handlersInvoked : Nat
  handlerFailures : Nat
  emissions : List (WindowEmission ρ)
  detections : List DetectionEvent
  alerts : List AlertEvent
  extractionFailed : Bool
  features : List (WindowedFeatureVectorEvent ρ)

end SignalForge
