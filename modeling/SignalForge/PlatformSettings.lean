import SignalForge.EventRouter

/-! The platform's settings: read from the environment, checked at construction, and turned to the
replay targets for a replay. -/

set_option autoImplicit false

namespace SignalForge

/-- What a sink may be called. The pattern is that of a whole name. -/
structure NameRule where
  minLength : Nat
  maxLength : Nat
  pattern : Str → Bool
  complaint : String

namespace NameRule

/-- `re.compile("^…$").match(name)`. The dollar matches before a line feed at the end, too. -/
def anchored (pattern : Str → Bool) (name : Str) : Bool :=
  pattern name || (name.getLast? = some '\n' && pattern name.dropLast)

def accepts (rule : NameRule) (name : String) : Prop :=
  rule.minLength ≤ name.length ∧ name.length ≤ rule.maxLength ∧
    anchored rule.pattern name.toList = true

def check (rule : NameRule) (repr : String → String) (fieldName name : String) :
    Except Raised Unit :=
  if name.length < rule.minLength ∨ rule.maxLength < name.length then
    .error (.valueError (fieldName ++ " must be " ++ toString rule.minLength ++ "-" ++
      toString rule.maxLength ++ " chars, got " ++ toString name.length ++ ": " ++ repr name))
  else if ¬ anchored rule.pattern name.toList then
    .error (.valueError (fieldName ++ rule.complaint ++ repr name))
  else .ok ()

theorem check_eq_ok {rule : NameRule} {repr : String → String} {fieldName name : String} :
    rule.check repr fieldName name = .ok () ↔ rule.accepts name := by
  unfold check accepts
  by_cases length : name.length < rule.minLength ∨ rule.maxLength < name.length
  · rw [if_pos length]
    refine iff_of_false (fun returned => by cases returned) ?_
    omega
  · rw [if_neg length]
    by_cases anchors : anchored rule.pattern name.toList = true
    · rw [if_neg (not_not_intro anchors)]
      refine iff_of_true rfl ⟨?_, ?_, anchors⟩ <;> omega
    · rw [if_pos anchors]
      exact iff_of_false (fun returned => by cases returned) fun accepted => anchors accepted.2.2

end NameRule

def isBucketChar (c : Char) : Bool := Text.isLowerAlnum c || c = '-'

/-- `[a-z0-9](?:[a-z0-9-]*[a-z0-9])?`. -/
def bucketPattern : Str → Bool
  | [] => false
  | first :: rest =>
      Text.isLowerAlnum first && (rest.isEmpty ||
        (rest.dropLast.all isBucketChar && rest.getLast?.any Text.isLowerAlnum))

/-- `[a-zA-Z0-9._-]+`. -/
def namePattern (text : Str) : Bool :=
  !text.isEmpty && text.all fun c => c.isAlphanum || Text.isSeparator c

def bucketRule : NameRule :=
  ⟨3, 63, bucketPattern,
    " must be lowercase alphanumeric or hyphens, not starting or ending with hyphen: "⟩

def busRule : NameRule :=
  ⟨1, 256, namePattern, " must be alphanumeric, dot, hyphen or underscore: "⟩

def tableRule : NameRule :=
  ⟨3, 255, namePattern, " must be alphanumeric, dot, dash or underscore: "⟩

def validateBucketName (repr : String → String) (name fieldName : String) : Except Raised Unit :=
  bucketRule.check repr fieldName name

def validateBusName (repr : String → String) (name fieldName : String) : Except Raised Unit :=
  busRule.check repr fieldName name

def validateTableName (repr : String → String) (name fieldName : String) : Except Raised Unit :=
  tableRule.check repr fieldName name

def defaultRealtimeWindowSeconds : Int := 5

def defaultOfflineThresholdSeconds : Int := 300

def defaultOutageThresholdRatio : Double := .finite (1 / 2)

def defaultLateEventToleranceSeconds : Int := 60

def defaultDataRetentionDays : Int := 730

namespace Config

structure PlatformSettings where
  realtimeWindowSeconds : Int := defaultRealtimeWindowSeconds
  offlineThresholdSeconds : Int := defaultOfflineThresholdSeconds
  outageThresholdRatio : Double := defaultOutageThresholdRatio
  lateEventToleranceSeconds : Int := defaultLateEventToleranceSeconds
  dataRetentionDays : Int := defaultDataRetentionDays
  serviceName : String := "stream-pipeline"
  environment : String
  datasetBucket : Option String := none
  replayDatasetBucket : Option String := none
  alertBus : Option String := none
  replayAlertBus : Option String := none
  projectionTable : Option String := none
  replayProjectionTable : Option String := none
  deriving DecidableEq

namespace PlatformSettings

/-- `if not condition: raise ValueError(message)`. -/
def require (condition : Prop) [Decidable condition] (message : String) : Except Raised Unit :=
  if condition then .ok () else .error (.valueError message)

/-- A name that is not configured is not validated. -/
def validateConfigured (validate : String → String → Except Raised Unit) (fieldName : String) :
    Option String → Except Raised Unit
  | none => .ok ()
  | some name => validate name fieldName

/-- `__post_init__`. -/
def postInit (repr : String → String) (settings : PlatformSettings) : Except Raised Unit := do
  require (0 < settings.realtimeWindowSeconds) "realtime_window_seconds must be > 0"
  require (0 < settings.offlineThresholdSeconds) "offline_threshold_seconds must be > 0"
  require (Double.lt (.finite 0) settings.outageThresholdRatio ∧
    Double.le settings.outageThresholdRatio (.finite 1))
    "outage_threshold_ratio must be in (0.0, 1.0]"
  require (0 ≤ settings.lateEventToleranceSeconds) "late_event_tolerance_seconds must be >= 0"
  require (0 < settings.dataRetentionDays) "data_retention_days must be > 0"
  require (settings.serviceName ≠ "") "service_name must be non-empty"
  require (settings.environment ≠ "") "environment must be non-empty"
  validateConfigured (validateBucketName repr) "dataset_bucket" settings.datasetBucket
  validateConfigured (validateBucketName repr) "replay_dataset_bucket" settings.replayDatasetBucket
  validateConfigured (validateBusName repr) "alert_bus" settings.alertBus
  validateConfigured (validateBusName repr) "replay_alert_bus" settings.replayAlertBus
  validateConfigured (validateTableName repr) "projection_table" settings.projectionTable
  validateConfigured (validateTableName repr) "replay_projection_table"
    settings.replayProjectionTable

/-- The settings as constructed: they are checked before anyone holds them. -/
def create (repr : String → String) (settings : PlatformSettings) :
    Except Raised PlatformSettings := do
  postInit repr settings
  pure settings

end PlatformSettings

/-- What reading an environment rests on outside this code: the decimal digits, `float` of a text,
`none` where it raises, and `repr` of a text. -/
structure EnvRules where
  digits : DecimalDigits
  parseFloat : String → Option Double
  repr : String → String

/-- `int(raw)`, where single underscores may stand between digits; `none` where it raises. -/
def readInt (digits : DecimalDigits) (raw : String) : Option Int := do
  let (negative, magnitude) := match Text.strip raw.toList with
    | '-' :: rest => (true, rest)
    | '+' :: rest => (false, rest)
    | text => (false, text)
  let groups ← (Text.split ['_'] magnitude).mapM fun group =>
    if group = [] then none else group.mapM digits.value?
  let values := groups.flatten
  if SchemaVersion.maxStrDigits < values.length then none
  else
    let number : Nat := values.foldl (fun number digit => number * 10 + digit) 0
    pure (if negative then -(number : Int) else number)

namespace EnvRules

/-- A variable converted, or the default where it is not set or empty. -/
def converted {α : Type} (rules : EnvRules) (read : String → Option α) (kind : String)
    (env : OrderedDict String String) (key : String) (default : α) : Except Raised α :=
  match env.get? key with
  | none => .ok default
  | some raw =>
      if raw = "" then .ok default
      else match read raw with
        | some value => .ok value
        | none => .error (.valueError (key ++ " must be " ++ kind ++ ", got " ++ rules.repr raw))

/-- `_int`. -/
def int (rules : EnvRules) : OrderedDict String String → String → Int → Except Raised Int :=
  rules.converted (readInt rules.digits) "an integer"

/-- `_float`. -/
def float (rules : EnvRules) :
    OrderedDict String String → String → Double → Except Raised Double :=
  rules.converted rules.parseFloat "a float"

end EnvRules

/-- `env.get(key) or None`. -/
def configured (env : OrderedDict String String) (key : String) : Option String :=
  (env.get? key).filter (· ≠ "")

namespace PlatformSettings

/-- `PlatformSettings.from_env`. -/
def fromEnv (rules : EnvRules) (env : OrderedDict String String) :
    Except Raised PlatformSettings := do
  let realtimeWindowSeconds ←
    rules.int env "SF_REALTIME_WINDOW_SECONDS" defaultRealtimeWindowSeconds
  let offlineThresholdSeconds ←
    rules.int env "SF_OFFLINE_THRESHOLD_SECONDS" defaultOfflineThresholdSeconds
  let outageThresholdRatio ←
    rules.float env "SF_OUTAGE_THRESHOLD_RATIO" defaultOutageThresholdRatio
  let lateEventToleranceSeconds ←
    rules.int env "SF_LATE_EVENT_TOLERANCE_SECONDS" defaultLateEventToleranceSeconds
  let dataRetentionDays ← rules.int env "SF_DATA_RETENTION_DAYS" defaultDataRetentionDays
  create rules.repr {
    realtimeWindowSeconds
    offlineThresholdSeconds
    outageThresholdRatio
    lateEventToleranceSeconds
    dataRetentionDays
    serviceName := (env.get? "SF_SERVICE_NAME").getD "stream-pipeline"
    environment := (env.get? "SF_ENV").getD "dev"
    datasetBucket := configured env "SF_DATASET_BUCKET"
    replayDatasetBucket := configured env "SF_REPLAY_DATASET_BUCKET"
    alertBus := configured env "SF_ALERT_BUS"
    replayAlertBus := configured env "SF_REPLAY_ALERT_BUS"
    projectionTable := configured env "SF_PROJECTION_TABLE"
    replayProjectionTable := configured env "SF_REPLAY_PROJECTION_TABLE" }

/-- The copy is checked as any settings are. -/
def forReplay (repr : String → String) (settings : PlatformSettings) (replayEnvironment : String) :
    Except Raised PlatformSettings :=
  create repr { settings with
    environment := replayEnvironment
    datasetBucket := settings.replayDatasetBucket
    alertBus := settings.replayAlertBus
    projectionTable := settings.replayProjectionTable }

variable {repr : String → String} {settings : PlatformSettings}

/-- What construction checks. -/
structure Valid (settings : PlatformSettings) : Prop where
  realtimeWindow : 0 < settings.realtimeWindowSeconds
  offlineThreshold : 0 < settings.offlineThresholdSeconds
  outageThreshold : Double.lt (.finite 0) settings.outageThresholdRatio ∧
    Double.le settings.outageThresholdRatio (.finite 1)
  lateEventTolerance : 0 ≤ settings.lateEventToleranceSeconds
  dataRetention : 0 < settings.dataRetentionDays
  serviceName : settings.serviceName ≠ ""
  environment : settings.environment ≠ ""
  datasetBucket : ∀ name ∈ settings.datasetBucket, bucketRule.accepts name
  replayDatasetBucket : ∀ name ∈ settings.replayDatasetBucket, bucketRule.accepts name
  alertBus : ∀ name ∈ settings.alertBus, busRule.accepts name
  replayAlertBus : ∀ name ∈ settings.replayAlertBus, busRule.accepts name
  projectionTable : ∀ name ∈ settings.projectionTable, tableRule.accepts name
  replayProjectionTable : ∀ name ∈ settings.replayProjectionTable, tableRule.accepts name

theorem require_eq_ok {condition : Prop} [Decidable condition] {message : String} :
    require condition message = .ok () ↔ condition := by
  unfold require
  split
  · exact iff_of_true rfl ‹_›
  · exact iff_of_false (fun returned => by cases returned) ‹_›

theorem validateConfigured_eq_ok {rule : NameRule} {fieldName : String} {name : Option String} :
    validateConfigured (fun name fieldName => rule.check repr fieldName name) fieldName name =
      .ok () ↔ ∀ configured ∈ name, rule.accepts configured := by
  cases name with
  | none => exact iff_of_true rfl fun _ absent => by cases absent
  | some name =>
      rw [validateConfigured, NameRule.check_eq_ok]
      exact ⟨fun accepted _ here => Option.some.inj here ▸ accepted, fun all => all name rfl⟩

theorem postInit_eq_ok : postInit repr settings = .ok () ↔ Valid settings := by
  have bucket : validateBucketName repr =
      fun name fieldName => bucketRule.check repr fieldName name := rfl
  have bus : validateBusName repr = fun name fieldName => busRule.check repr fieldName name := rfl
  have table : validateTableName repr =
      fun name fieldName => tableRule.check repr fieldName name := rfl
  simp only [postInit, Except.check_bind_eq_ok, require_eq_ok, bucket, bus, table,
    validateConfigured_eq_ok]
  constructor
  · intro ⟨window, offline, outage, late, retention, service, environment, live, replay, liveBus,
      replayBus, liveTable, replayTable⟩
    exact ⟨window, offline, outage, late, retention, service, environment, live, replay, liveBus,
      replayBus, liveTable, replayTable⟩
  · intro valid
    exact ⟨valid.realtimeWindow, valid.offlineThreshold, valid.outageThreshold,
      valid.lateEventTolerance, valid.dataRetention, valid.serviceName, valid.environment,
      valid.datasetBucket, valid.replayDatasetBucket, valid.alertBus, valid.replayAlertBus,
      valid.projectionTable, valid.replayProjectionTable⟩

theorem create_eq_ok {created : PlatformSettings} :
    create repr settings = .ok created ↔ Valid settings ∧ settings = created := by
  rw [create, Except.check_bind_eq_ok, postInit_eq_ok]
  exact and_congr_right fun _ => ⟨Except.ok.inj, congrArg Except.ok⟩

/-- The replay's names have been checked along with the live ones. -/
theorem forReplay_eq (valid : Valid settings) {replayEnvironment : String}
    (named : replayEnvironment ≠ "") :
    settings.forReplay repr replayEnvironment = .ok { settings with
      environment := replayEnvironment
      datasetBucket := settings.replayDatasetBucket
      alertBus := settings.replayAlertBus
      projectionTable := settings.replayProjectionTable } :=
  create_eq_ok.mpr ⟨{ valid with
    environment := named
    datasetBucket := valid.replayDatasetBucket
    alertBus := valid.replayAlertBus
    projectionTable := valid.replayProjectionTable }, rfl⟩

end PlatformSettings

/-- What the pipeline writes to outside itself. -/
inductive Target where
  | datasetBucket
  | alertBus
  | projectionTable
  deriving DecidableEq

namespace Target

def name (settings : PlatformSettings) : Target → Option String
  | datasetBucket => settings.datasetBucket
  | alertBus => settings.alertBus
  | projectionTable => settings.projectionTable

def replayName (settings : PlatformSettings) : Target → Option String
  | datasetBucket => settings.replayDatasetBucket
  | alertBus => settings.replayAlertBus
  | projectionTable => settings.replayProjectionTable

def liveVariable : Target → String
  | datasetBucket => "SF_DATASET_BUCKET"
  | alertBus => "SF_ALERT_BUS"
  | projectionTable => "SF_PROJECTION_TABLE"

def replayVariable : Target → String
  | datasetBucket => "SF_REPLAY_DATASET_BUCKET"
  | alertBus => "SF_REPLAY_ALERT_BUS"
  | projectionTable => "SF_REPLAY_PROJECTION_TABLE"

end Target

theorem configured_eq_some {env : OrderedDict String String} {key name : String} :
    configured env key = some name ↔ env.get? key = some name ∧ name ≠ "" := by
  rw [configured, Option.filter_eq_some_iff, decide_eq_true_iff]

/-- Accepted settings are valid, and their targets are those the environment configures. -/
theorem PlatformSettings.of_fromEnv {rules : EnvRules} {env : OrderedDict String String}
    {settings : PlatformSettings} (accepted : fromEnv rules env = .ok settings) :
    settings.Valid ∧ ∀ target : Target, target.name settings = configured env target.liveVariable ∧
      target.replayName settings = configured env target.replayVariable := by
  obtain ⟨window, _, accepted⟩ := Except.bind_eq_ok.mp accepted
  obtain ⟨offline, _, accepted⟩ := Except.bind_eq_ok.mp accepted
  obtain ⟨outage, _, accepted⟩ := Except.bind_eq_ok.mp accepted
  obtain ⟨late, _, accepted⟩ := Except.bind_eq_ok.mp accepted
  obtain ⟨retention, _, accepted⟩ := Except.bind_eq_ok.mp accepted
  obtain ⟨valid, rfl⟩ := create_eq_ok.mp accepted
  refine ⟨valid, fun target => ?_⟩
  cases target <;> exact ⟨rfl, rfl⟩

end Config

end SignalForge
