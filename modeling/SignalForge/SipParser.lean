import SignalForge.OrderedDict
import SignalForge.Text

/-! SIP messages parsed from bytes, and the fields extracted from a REGISTER. Observer
callbacks are left out. -/

set_option autoImplicit false

namespace SignalForge

structure SIPMessage where
  method : Str
  headers : OrderedDict Str Str
  deviceLabel : Option Str
  callId : Option Str
  transport : Option Str
  sourceIp : Option Str

namespace SipParser

/-- One header line into the headers so far; a later line of the same name replaces an
earlier one. -/
def parseHeader (cases : CaseMaps) (headers : OrderedDict Str Str) (line : Str) :
    OrderedDict Str Str :=
  if Text.strip line = [] then headers
  else match Text.splitOnce [':'] line with
    | none => headers
    | some (key, value) => headers.set (cases.lower (Text.strip key)) (Text.strip value)

def parseHeaders (cases : CaseMaps) (lines : List Str) : OrderedDict Str Str :=
  lines.foldl (parseHeader cases) .empty

/-- `headers.get(name)`, with an empty value read as an absent one. -/
def header? (headers : OrderedDict Str Str) (name : String) : Option Str :=
  (headers.get? name.toList).filter (· ≠ [])

/-- The user part of the From header's first SIP address. -/
def extractDeviceLabel (headers : OrderedDict Str Str) : Option Str := do
  let fromHeader ← header? headers "from"
  let identifier ← (Text.split "sip:".toList fromHeader)[1]?
  let identifier ← (Text.split ['@'] identifier)[0]?
  pure (identifier.filter fun c => c ≠ '<' ∧ c ≠ '>')

/-- The last part of the Via header's protocol, and its address up to the first colon. -/
def extractTransport (headers : OrderedDict Str Str) : Option Str × Option Str :=
  match header? headers "via" with
  | none => (none, none)
  | some via =>
      match Text.words via with
      | protocolPart :: addressPart :: _ =>
          ((Text.split ['/'] protocolPart).getLast?, (Text.split [':'] addressPart)[0]?)
      | _ => (none, none)

def parse (cases : CaseMaps) (rawMessage : List UInt8) : Option SIPMessage :=
  match Text.split ['\r', '\n'] (Text.decodeIgnoring rawMessage) with
  | [] => none
  | requestLine :: lines =>
      match Text.words requestLine with
      | method :: _ :: _ :: _ =>
          let headers := parseHeaders cases lines
          let transport := extractTransport headers
          some {
            method := cases.upper method
            headers := headers
            deviceLabel := extractDeviceLabel headers
            callId := headers.get? "call-id".toList
            transport := transport.1
            sourceIp := transport.2 }
      | _ => none

/-- What is taken for a source address never holds a colon. -/
theorem extractTransport_no_colon (headers : OrderedDict Str Str) (address : Str)
    (taken : (extractTransport headers).2 = some address) : ':' ∉ address := by
  unfold extractTransport at taken
  split at taken
  · cases taken
  · split at taken
    · exact Text.head_split_no_separator ':' _ _ taken
    · cases taken

end SipParser

/-- The one status the mapper has a name for. -/
inductive RegistrationToken where
  | registered
  deriving DecidableEq, Repr

def RegistrationToken.text : RegistrationToken → Str
  | .registered => "registered".toList

structure ExtractedEventFields where
  deviceLabel : Str
  registrationStatus : RegistrationToken
  transportProtocol : Option Str
  callId : Option Str
  sourceIp : Option Str
  deriving DecidableEq

namespace EventExtractor

def mapRegistrationStatus (headers : OrderedDict Str Str) : Option RegistrationToken :=
  match SipParser.header? headers "cseq" with
  | none => none
  | some cseq => if Text.contains "REGISTER".toList cseq then some .registered else none

inductive Refused where
  | unsupportedProtocolEvent (method : Str)

/-- The fields of a REGISTER; `none` where the message contradicts itself or names no
device. -/
def extract (message : SIPMessage) : Except Refused (Option ExtractedEventFields) :=
  if message.method ≠ "REGISTER".toList then .error (.unsupportedProtocolEvent message.method)
  else match mapRegistrationStatus message.headers with
    | none => .ok none
    | some registrationStatus =>
        match message.deviceLabel with
        | none => .ok none
        | some deviceLabel =>
            .ok (some {
              deviceLabel := deviceLabel
              registrationStatus := registrationStatus
              transportProtocol := message.transport
              callId := message.callId
              sourceIp := message.sourceIp })

end EventExtractor

end SignalForge
