import SignalForge.BaseEvent
import SignalForge.Call
import SignalForge.DatetimeText
import SignalForge.Identity
import SignalForge.SipParser

/-! Extracted fields normalised into SIP registration events. -/

set_option autoImplicit false

namespace SignalForge

inductive RegistrationStatus where
  | registered
  deriving DecidableEq, Repr

inductive SipTransportProtocol where
  | tcp
  | udp
  | tls
  deriving DecidableEq, Repr

abbrev Ipv4Address : Type := BitVec 32

structure SipRegistrationPayload where
  deviceId : Uuid
  deviceLabel : Str
  storeId : Str
  registrationStatus : RegistrationStatus
  observedAt : Datetime
  transportProtocol : Option SipTransportProtocol
  sourceIp : Option Ipv4Address
  registrationCallId : Option Str
  deriving DecidableEq

structure SipRegistrationEvent where
  eventId : Uuid
  eventTimestamp : Datetime
  ingestTimestamp : Instant
  traceId : Uuid
  payload : SipRegistrationPayload
  deriving DecidableEq

/-- What normalisation rests on outside this code: case mappings, SHA-1, the clock and random
identifiers. -/
structure ParserRules (ω : Type) where
  cases : CaseMaps
  sha1 : List UInt8 → BitVec 160
  now : ω → Instant × ω
  uuid4 : ω → Uuid × ω

structure EventNormaliser where
  storeId : Str
  valid : Text.isIdentifier storeId = true

namespace EventNormaliser

/-- `EventNormaliser(store_id)`. -/
def create (storeId : Str) : Except Raised EventNormaliser :=
  if Text.strip storeId = [] then .error (.valueError
    ("store_id is required and must be a non-empty string; " ++
      "it comes from the controller's provisioned configuration"))
  else if valid : Text.isIdentifier storeId = true then .ok ⟨storeId, valid⟩
  else .error (.valueError "store_id does not satisfy the sip.registration grammar")

/-- `RegistrationStatus(value)`. -/
def registrationStatus? (value : Str) : Option RegistrationStatus :=
  if value = "REGISTERED".toList then some .registered else none

/-- `SipTransportProtocol(value)`. -/
def transportProtocol? (value : Str) : Option SipTransportProtocol :=
  if value = "TCP".toList then some .tcp
  else if value = "UDP".toList then some .udp
  else if value = "TLS".toList then some .tls
  else none

/-- A decimal octet of at most three digits, without a leading zero. -/
def octet? (text : Str) : Option Nat :=
  let value := text.foldl (fun value c => value * 10 + (c.toNat - 48)) 0
  if text ≠ [] ∧ text.all Char.isDigit ∧ text.length ≤ 3 ∧ (text = ['0'] ∨ text.head? ≠ some '0') ∧
      value ≤ 255 then some value
  else none

/-- `ip_address(text)`. Only text without a colon is asked for, and none of that is an IPv6
address. -/
def ipAddress? (text : Str) : Option Ipv4Address :=
  match (Text.split ['.'] text).mapM octet? with
  | some [first, second, third, fourth] =>
      some (BitVec.ofNat 32 (((first * 256 + second) * 256 + third) * 256 + fourth))
  | _ => none

def convert {α : Type} (parse : Str → Option α) (message : String) (text : Str) :
    Except Raised α :=
  match parse text with
  | none => .error (.valueError message)
  | some value => .ok value

/-- The conversion of a field that may be absent. -/
def convertOptional {α : Type} (parse : Str → Option α) (message : String) :
    Option Str → Except Raised (Option α)
  | none => .ok none
  | some text => (convert parse message text).map some

/-- The fields of the payload the schema refuses. -/
def refusedFields (payload : SipRegistrationPayload) : List String :=
  (if payload.deviceId.version = some 4 ∨ payload.deviceId.version = some 5 then []
    else ["device_id"]) ++
  (if 1 ≤ payload.deviceLabel.length ∧ payload.deviceLabel.length ≤ 128 then []
    else ["device_label"]) ++
  (if Text.isIdentifier payload.storeId then [] else ["store_id"]) ++
  (if payload.observedAt.offset = 0 then [] else ["observed_at"]) ++
  (if payload.registrationCallId.all (·.length ≤ 256) then [] else ["registration_call_id"])

def validatePayload (payload : SipRegistrationPayload) : Except Raised SipRegistrationPayload :=
  match refusedFields payload with
  | [] => .ok payload
  | fields => .error (.validationError fields)

section

variable {ω : Type}

def buildPayload (rules : ParserRules ω) (normaliser : EventNormaliser)
    (extracted : ExtractedEventFields) (observedAt : Datetime) :
    Except Raised SipRegistrationPayload := do
  let registrationStatus ← convert registrationStatus? "is not a valid RegistrationStatus"
    (rules.cases.upper extracted.registrationStatus.text)
  let transportProtocol ← convertOptional transportProtocol?
    "is not a valid SipTransportProtocol" (extracted.transportProtocol.map rules.cases.upper)
  let sourceIp ← convertOptional ipAddress?
    "does not appear to be an IPv4 or IPv6 address" extracted.sourceIp
  validatePayload {
    deviceId := Identity.deriveDeviceId rules.sha1 normaliser.storeId extracted.deviceLabel
    deviceLabel := extracted.deviceLabel
    storeId := normaliser.storeId
    registrationStatus := registrationStatus
    observedAt := observedAt
    transportProtocol := transportProtocol
    sourceIp := sourceIp
    registrationCallId := extracted.callId }

def deriveEventId (rules : ParserRules ω) (payload : SipRegistrationPayload) : Uuid :=
  Identity.derive rules.sha1 "event.sip_registration" [payload.deviceId.text,
    (payload.observedAt.isoformat "T").toList, payload.registrationCallId.getD "None".toList]

/-- The trace given, or a fresh one. -/
def traceOf (rules : ParserRules ω) : Option Uuid → Call Raised ω Uuid
  | some traceId => pure traceId
  | none => Call.total rules.uuid4

def normalise (rules : ParserRules ω) (normaliser : EventNormaliser)
    (traceId : Option Uuid) (extracted : ExtractedEventFields) (observedAt : Datetime) :
    Call Raised ω SipRegistrationEvent := do
  let eventTimestamp ← Call.lift observedAt.toUtc
  let payload ← Call.lift (buildPayload rules normaliser extracted eventTimestamp)
  let ingestTimestamp ← Call.total rules.now
  let trace ← traceOf rules traceId
  Call.lift (BaseEvent.checkClockSkew eventTimestamp ingestTimestamp)
  pure {
    eventId := deriveEventId rules payload
    eventTimestamp := eventTimestamp
    ingestTimestamp := ingestTimestamp
    traceId := trace
    payload := payload }

end

end EventNormaliser

end SignalForge
