import SignalForge.EventNormaliserAcceptance
import SignalForge.ParserPipelineRun

/-! When a run of the parser pipeline drops what it cannot describe and goes on. -/

set_option autoImplicit false

namespace SignalForge.ParserPipeline

open EventNormaliser MessageDecoder TcpReassembler

section

variable {ω : Type}

/-- The REGISTERs among the messages, with their observation times. -/
def registrations (cases : CaseMaps) (messages : List TimestampedMessage) :
    List (ExtractedEventFields × Datetime) :=
  messages.filterMap fun message => (extracted? cases message.data).map (·, message.timestamp)

/-- The clock as the event after so many others is stamped. -/
def reading (rules : ParserRules ω) (traceId : Option Uuid) (world : ω) (place : Nat) : Instant :=
  (rules.now ((advance rules traceId)^[place] world)).1

/-- The schema and the envelope take the registration. -/
structure Acceptable (rules : ParserRules ω) (registration : ExtractedEventFields × Datetime)
    (ingested : Instant) : Prop where
  describable : Describable rules registration.1
  timely : Timely registration.2 ingested

/-- What a run that drops every message it fails on would yield. -/
def surviving (rules : ParserRules ω) (normaliser : EventNormaliser) (traceId : Option Uuid) :
    List TimestampedMessage → ω → List SipRegistrationEvent
  | [], _ => []
  | message :: rest, world =>
      match extracted? rules.cases message.data with
      | none => surviving rules normaliser traceId rest world
      | some extracted =>
          match normalise rules normaliser traceId extracted message.timestamp world with
          | (.error _, after) => surviving rules normaliser traceId rest after
          | (.ok event, after) => event :: surviving rules normaliser traceId rest after

/-- The run reads every packet without raising and loses no event to a message dropped. -/
structure Robust (rules : ParserRules ω) (traceId : Option Uuid) (packets : List TCPPacket)
    (pipeline : ParserPipeline) (world : ω) : Prop where
  returns : ∃ after, (parseStream rules traceId packets pipeline world).ended =
    .ok (pipeline.emptied packets, after)
  yields : (parseStream rules traceId packets pipeline world).yielded =
    surviving rules pipeline.normaliser traceId (pipeline.framedMessages packets) world

variable {rules : ParserRules ω} {normaliser : EventNormaliser} {traceId : Option Uuid}

/-- Parsing that does not raise drops nothing it could describe. -/
theorem parseMessages_surviving (messages : List TimestampedMessage) (world after : ω)
    (returned : (parseMessages rules normaliser traceId messages world).ended = .ok after) :
    (parseMessages rules normaliser traceId messages world).yielded =
      surviving rules normaliser traceId messages world := by
  induction messages generalizing world with
  | nil => rfl
  | cons message rest ih =>
      cases parsed : extracted? rules.cases message.data with
      | none =>
          rw [parseMessages_skip parsed] at returned ⊢
          simp only [surviving, parsed]
          exact ih world returned
      | some extracted =>
          rcases normalised : normalise rules normaliser traceId extracted message.timestamp world
            with ⟨reason | event, between⟩
          · rw [parseMessages_raise parsed normalised] at returned
            cases returned
          · rw [parseMessages_yield parsed normalised] at returned ⊢
            simp only [surviving, parsed, normalised]
            exact congrArg (event :: ·) (ih between returned)

/-- Parsing returns where every registration is acceptable when its turn comes. -/
theorem parseMessages_returns_iff (messages : List TimestampedMessage) (world : ω) :
    (∃ after, (parseMessages rules normaliser traceId messages world).ended = .ok after) ↔
      ∀ place registration, (registrations rules.cases messages)[place]? = some registration →
        Acceptable rules registration (reading rules traceId world place) := by
  induction messages generalizing world with
  | nil =>
      constructor
      · intro _ place registration listed
        cases listed
      · exact fun _ => ⟨world, rfl⟩
  | cons message rest ih =>
      cases parsed : extracted? rules.cases message.data with
      | none =>
          rw [parseMessages_skip parsed, registrations,
            List.filterMap_cons_none (by rw [parsed]; rfl)]
          exact ih world
      | some extracted =>
          have listed : registrations rules.cases (message :: rest) =
              (extracted, message.timestamp) :: registrations rules.cases rest :=
            List.filterMap_cons_some (by rw [parsed]; rfl)
          rw [listed]
          rcases normalised : normalise rules normaliser traceId extracted message.timestamp world
            with ⟨reason | event, after⟩
          · -- this registration raises, so it is not acceptable
            rw [parseMessages_raise parsed normalised]
            constructor
            · rintro ⟨_, returned⟩
              cases returned
            · intro acceptable
              have first := acceptable 0 (extracted, message.timestamp) rfl
              obtain ⟨event, between, returned⟩ :
                  (normalise rules normaliser traceId extracted message.timestamp).Returns world :=
                normalise_returns first.describable first.timely
              rw [normalised] at returned
              cases returned
          · rw [parseMessages_yield parsed normalised]
            obtain ⟨describable, timely, _, rfl⟩ := normalise_ok normalised
            have later := ih (advance rules traceId world)
            constructor
            · intro returned place registration found
              cases place with
              | zero =>
                  cases found
                  exact ⟨describable, timely⟩
              | succ place => exact later.mp returned place registration found
            · intro acceptable
              exact later.mpr fun place registration found =>
                acceptable (place + 1) registration found

/-- A run is robust exactly when every REGISTER it comes to is one the normaliser accepts. -/
theorem parseStream_robust_iff (rules : ParserRules ω) (traceId : Option Uuid)
    (packets : List TCPPacket) (pipeline : ParserPipeline) (sound : pipeline.Sound) (world : ω) :
    Robust rules traceId packets pipeline world ↔
      ∀ place registration,
        (registrations rules.cases (pipeline.framedMessages packets))[place]? =
            some registration →
          Acceptable rules registration (reading rules traceId world place) := by
  have flattened : parseStream rules traceId packets pipeline world = _ :=
    parseStream_eq packets sound world
  have returns : (∃ after, (parseMessages rules pipeline.normaliser traceId
      (pipeline.framedMessages packets) world).ended = .ok after) ↔ _ :=
    parseMessages_returns_iff (pipeline.framedMessages packets) world
  rw [← returns]
  constructor
  · intro robust
    obtain ⟨after, returned⟩ := robust.returns
    rw [flattened, Generated.bind_ended_eq_ok] at returned
    obtain ⟨between, parsed, _⟩ := returned
    exact ⟨between, parsed⟩
  · rintro ⟨after, parsed⟩
    rw [Generated.bind_of_ok parsed] at flattened
    refine ⟨⟨after, by rw [flattened]; rfl⟩, ?_⟩
    rw [flattened, ← parseMessages_surviving _ _ _ parsed]
    exact List.append_nil _

end

/-- Case mappings of ASCII text, a clock that stands at a fixed time and no hash at all. -/
def sampleRules : ParserRules Unit where
  cases := ⟨List.map Char.toUpper, List.map Char.toLower, fun _ _ => rfl, fun _ _ => rfl⟩
  sha1 _ := 0#160
  now world := (.epoch, world)
  uuid4 world := (0#128, world)

def samplePipeline : ParserPipeline := { normaliser := ⟨"store-1".toList, by decide⟩ }

/-- A REGISTER of a device through a Via header. -/
def sampleRegister (via deviceLabel : String) : Bytes :=
  ("REGISTER sip:pbx SIP/2.0\r\nVia: ".toList ++ via.toList ++ "\r\nFrom: <sip:".toList ++
    deviceLabel.toList ++ "@pbx>\r\nCSeq: 1 REGISTER\r\nCall-ID: a1\r\n\r\n".toList).map
      fun c => c.toNat.toUInt8

/-- The fields of a sample REGISTER over UDP. -/
def sampleFields (address deviceLabel : String) : ExtractedEventFields where
  deviceLabel := deviceLabel.toList
  registrationStatus := .registered
  transportProtocol := some "UDP".toList
  callId := some "a1".toList
  sourceIp := some address.toList

theorem acceptable_sampleFields {address deviceLabel : String}
    (labelled : 1 ≤ deviceLabel.toList.length ∧ deviceLabel.toList.length ≤ 128)
    (parsed : (ipAddress? address.toList).isSome) :
    Acceptable sampleRules (sampleFields address deviceLabel, .utc .epoch) .epoch := by
  have timely : Timely (.utc .epoch) .epoch := ⟨by decide, by decide, by decide, by decide⟩
  refine ⟨⟨labelled.1, labelled.2, ?_, ?_, ?_⟩, timely⟩
  · rintro token ⟨⟩
    decide
  · rintro text ⟨⟩
    exact parsed
  · rintro callId ⟨⟩
    decide

/-- A REGISTER with an address the normaliser takes is parsed in a robust run. -/
theorem parseStream_robust_one :
    Robust sampleRules none [samplePacket 1 (sampleRegister "SIP/2.0/UDP 10.0.0.2:5060" "h2")]
      samplePipeline () := by
  refine (parseStream_robust_iff sampleRules none _ samplePipeline ⟨[], marked_empty⟩ ()).mpr ?_
  have registered : registrations sampleRules.cases (samplePipeline.framedMessages
      [samplePacket 1 (sampleRegister "SIP/2.0/UDP 10.0.0.2:5060" "h2")]) =
      [(sampleFields "10.0.0.2" "h2", .utc .epoch)] := by
    decide +kernel
  intro place registration listed
  rw [registered] at listed
  cases place with
  | zero =>
      cases listed
      exact acceptable_sampleFields (by decide) (by decide)
  | succ place => cases listed

/-- A REGISTER whose Via address has parameters but no port, and a valid one after it. -/
def portlessVia : List TCPPacket :=
  [samplePacket 1 (sampleRegister "SIP/2.0/UDP 10.0.0.1;branch=z9hG4bK1" "h1"),
    samplePacket 123 (sampleRegister "SIP/2.0/UDP 10.0.0.2:5060" "h2")]

/-- The run raises at the first message and loses the event of the second. -/
theorem portless_via_raises :
    (parseStream sampleRules none portlessVia samplePipeline ()).ended.map (fun _ => ()) =
      .error (.valueError "does not appear to be an IPv4 or IPv6 address") ∧
    (parseStream sampleRules none portlessVia samplePipeline ()).yielded = [] ∧
    (surviving sampleRules samplePipeline.normaliser none
        (samplePipeline.framedMessages portlessVia) ()).map (fun event => event.payload.deviceLabel) =
      ["h2".toList] ∧
    ¬ Robust sampleRules none portlessVia samplePipeline () := by
  have raises : (parseStream sampleRules none portlessVia samplePipeline ()).ended.map
      (fun _ => ()) = .error (.valueError "does not appear to be an IPv4 or IPv6 address") := by
    decide +kernel
  refine ⟨raises, by decide +kernel, by decide +kernel, ?_⟩
  intro robust
  obtain ⟨after, returned⟩ := robust.returns
  rw [returned] at raises
  cases raises

end SignalForge.ParserPipeline
