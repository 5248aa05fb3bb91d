import SignalForge.Binary64
import SignalForge.ParserPipelineRobustness
import SignalForge.SegmentLedger

/-! The parser with an observer: what is reported to it, in turn with the events yielded. The
observer's own methods are taken to return, and capture times to be aware, as everywhere here:
`close_session` subtracts two of them for its observer alone, which naive and aware times refuse. -/

set_option autoImplicit false

namespace Generated

variable {ε α β γ δ : Type}

/-- Some items yielded, and nothing else done. -/
def emit (items : List α) : Generated ε α Unit := ⟨items, .ok ()⟩

@[simp] theorem emit_bind (items : List α) (next : Unit → Generated ε α β) :
    (emit items).bind next = ⟨items ++ (next ()).yielded, (next ()).ended⟩ := rfl

/-- What a generator yields, some of it read otherwise and the rest left out. -/
def pick (read : α → Option γ) (generated : Generated ε α β) : Generated ε γ β :=
  ⟨generated.yielded.filterMap read, generated.ended⟩

@[simp] theorem pick_done (read : α → Option γ) (value : β) :
    pick read (done value : Generated ε α β) = done value := rfl

@[simp] theorem pick_raise (read : α → Option γ) (reason : ε) :
    pick read (raise reason : Generated ε α β) = raise reason := rfl

theorem pick_yield_some {read : α → Option γ} {item : α} {shown : γ}
    (seen : read item = some shown) (rest : Generated ε α β) :
    pick read (yield item rest) = yield shown (pick read rest) :=
  congrArg (fun items => Generated.mk items rest.ended) (List.filterMap_cons_some seen)

theorem pick_yield_none {read : α → Option γ} {item : α} (unseen : read item = none)
    (rest : Generated ε α β) : pick read (yield item rest) = pick read rest :=
  congrArg (fun items => Generated.mk items rest.ended) (List.filterMap_cons_none unseen)

theorem pick_bind (read : α → Option γ) (first : Generated ε α β) (next : β → Generated ε α δ) :
    pick read (first.bind next) = (pick read first).bind fun value => pick read (next value) := by
  obtain ⟨yielded, ended⟩ := first
  cases ended with
  | error reason => rfl
  | ok value =>
      exact congrArg (fun items => Generated.mk items (next value).ended) List.filterMap_append

/-- Items none of which is read are as good as none. -/
theorem pick_emit_bind {read : α → Option γ} {items : List α}
    (unseen : ∀ item ∈ items, read item = none) (next : Unit → Generated ε α β) :
    pick read ((emit items).bind next) = pick read (next ()) := by
  rw [pick_bind, pick, emit, List.filterMap_eq_nil_iff.mpr unseen]
  rfl

end Generated

namespace SignalForge

/-- `on_packet_dropped`, with the metadata of each reason. -/
inductive DropReport where
  | outOfOrderRetransmit (sequence : Nat)
  | incompleteReassembly (segments bytes : Nat)
  | incompleteMessage (bytes : Nat) (observedAt : String)
  deriving DecidableEq

def DropReport.reason : DropReport → String
  | outOfOrderRetransmit _ => "out_of_order_retransmit"
  | incompleteReassembly _ _ => "incomplete_reassembly_at_end_of_stream"
  | incompleteMessage _ _ => "incomplete_message_at_end_of_stream"

/-- The calls of an observer. Parse errors are reported without a size. -/
inductive ParserReport where
  | sessionStart (sessionId sourceIp destinationIp : String) (sourcePort destinationPort : Nat)
  | sessionEnd (sessionId : String) (durationSeconds : ℚ)
  | packetDropped (drop : DropReport)
  | messageReconstructed (sizeBytes : Nat) (timestamp : Instant)
  | parseError (errorType : String)
  | eventEmitted (eventType : String) (eventId : Uuid)
  deriving DecidableEq

/-- One step of a run as it is seen from outside. -/
inductive ParserItem where
  | report (report : ParserReport)
  | event (event : SipRegistrationEvent)

namespace ParserItem

def report? : ParserItem → Option ParserReport
  | .report made => some made
  | .event _ => none

def event? : ParserItem → Option SipRegistrationEvent
  | .report _ => none
  | .event yielded => some yielded

theorem event?_map_report {reports : List ParserReport} :
    ∀ item ∈ reports.map report, item.event? = none := by
  intro item member
  obtain ⟨made, _, rfl⟩ := List.mem_map.mp member
  rfl

end ParserItem

namespace SessionTracker

/-- The duration of a session in seconds, `(timestamp - start).total_seconds()` of aware times. -/
def durationSeconds (session : TCPSession) (timestamp : Datetime) : ℚ :=
  Binary64.round ((timestamp.micros - session.startTimestamp.micros : Int) / 1000000)

section

variable (sessionId : SessionKey → Datetime → String)

def started (key : SessionKey) (session : TCPSession) : ParserReport :=
  .sessionStart (sessionId key session.startTimestamp) session.sourceIp session.destinationIp
    session.sourcePort session.destinationPort

/-- `get_or_create_session` reports a session it creates. -/
def startReports (sessions : OrderedDict SessionKey TCPSession) (key : SessionKey)
    (timestamp : Datetime) : List ParserReport :=
  match sessions.get? key with
  | none => [started sessionId key (newSession key timestamp)]
  | some _ => []

def ended (key : SessionKey) (session : TCPSession) (timestamp : Datetime) : ParserReport :=
  .sessionEnd (sessionId key session.startTimestamp) (durationSeconds session timestamp)

/-- `close_session` reports the session it closes, each time it does. -/
def endReports (sessions : OrderedDict SessionKey TCPSession) (key : SessionKey)
    (timestamp : Datetime) : List ParserReport :=
  match sessions.get? key with
  | none => []
  | some session => [ended sessionId key session timestamp]

end

/-- `active_sessions()`. -/
def activeSessions (sessions : OrderedDict SessionKey TCPSession) : List TCPSession :=
  sessions.values.filter fun session => session.endTimestamp = none

end SessionTracker

namespace TcpReassembler

/-- Reported before a packet's chunks are yielded. -/
def reportsBefore (sessionId : SessionKey → Datetime → String) (state : State)
    (packet : TCPPacket) : List ParserReport :=
  SessionTracker.startReports sessionId state (packetKey packet) packet.timestamp ++
    if packet.sequenceNumber < (streamOf state (packetKey packet)).expectedSequence then
      [.packetDropped (.outOfOrderRetransmit packet.sequenceNumber)]
    else []

/-- Reported once all of them are consumed. -/
def reportsAfter (sessionId : SessionKey → Datetime → String) (processed : State)
    (packet : TCPPacket) : List ParserReport :=
  if packet.fin then
    SessionTracker.endReports sessionId processed (packetKey packet) packet.timestamp
  else []

end TcpReassembler

/-- `extract` reports a REGISTER that contradicts itself or names no device. -/
def EventExtractor.reports (message : SIPMessage) : List ParserReport :=
  if message.method ≠ "REGISTER".toList then []
  else match mapRegistrationStatus message.headers with
    | none => [.parseError "register_cseq_mismatch"]
    | some _ =>
        match message.deviceLabel with
        | none => [.parseError "register_missing_device_label"]
        | some _ => []

namespace ParserPipeline.Observed

open ParserPipeline

variable {ω : Type}

def extractReports (cases : CaseMaps) (data : Bytes) : List ParserReport :=
  match SipParser.parse cases data with
  | none => []
  | some message => EventExtractor.reports message

section

variable (rules : ParserRules ω) (normaliser : EventNormaliser) (traceId : Option Uuid)

/-- The body of the innermost loop, with the clock read for each message framed. -/
def parseMessages : List TimestampedMessage → ω → Generated Raised ParserItem ω
  | [], world => .done world
  | framedMessage :: rest, world =>
      let read := rules.now world
      (Generated.emit ((.messageReconstructed framedMessage.data.length read.1 ::
        extractReports rules.cases framedMessage.data).map ParserItem.report)).bind fun _ =>
          match extracted? rules.cases framedMessage.data with
          | none => parseMessages rest read.2
          | some extracted =>
              match EventNormaliser.normalise rules normaliser traceId extracted
                  framedMessage.timestamp read.2 with
              | (.error reason, _) => .raise reason
              | (.ok event, after) =>
                  .yield (.report (.eventEmitted "sip.registration" event.eventId))
                    (.yield (.event event) (parseMessages rest after))

def parseFramed (framed : Generated Raised TimestampedMessage MessageDecoder) (world : ω) :
    Generated Raised ParserItem (MessageDecoder × ω) :=
  (parseMessages rules normaliser traceId framed.yielded world).bind fun after =>
    match framed.ended with
    | .error reason => .raise reason
    | .ok decoder => .done (decoder, after)

def parseChunks : List TimestampedChunk → MessageDecoder → ω →
    Generated Raised ParserItem (MessageDecoder × ω)
  | [], decoder, world => .done (decoder, world)
  | chunk :: rest, decoder, world =>
      (parseFramed rules normaliser traceId (decoder.feed chunk) world).bind fun fed =>
        parseChunks rest fed.1 fed.2

end

section

variable (sessionId : SessionKey → Datetime → String) (rules : ParserRules ω)
  (traceId : Option Uuid)

def parsePackets : List TCPPacket → ParserPipeline → ω →
    Generated Raised ParserItem (ParserPipeline × ω)
  | [], pipeline, world => .done (pipeline, world)
  | packet :: rest, pipeline, world =>
      let processed := TcpReassembler.processPacket pipeline.reassembler packet
      (Generated.emit ((TcpReassembler.reportsBefore sessionId pipeline.reassembler packet).map
        ParserItem.report)).bind fun _ =>
          (parseChunks rules pipeline.normaliser traceId processed.2 pipeline.decoder world).bind
            fun fed =>
              (Generated.emit ((TcpReassembler.reportsAfter sessionId processed.1 packet).map
                ParserItem.report)).bind fun _ =>
                  parsePackets rest
                    { pipeline with reassembler := processed.1, decoder := fed.1 } fed.2

/-- Segments held behind a gap are reported where there are any. -/
def segmentReports (reassembler : TcpReassembler.State) : List ParserReport :=
  let discarded := (TcpReassembler.discardIncomplete reassembler).2
  if discarded.1 = 0 then []
  else [.packetDropped (.incompleteReassembly discarded.1 discarded.2)]

def remainderReports (remainder : Option TimestampedMessage) : List ParserReport :=
  match remainder with
  | none => []
  | some message => [.packetDropped
      (.incompleteMessage message.data.length (message.timestamp.isoformat "T"))]

def discardIncompleteBuffers (pipeline : ParserPipeline) :
    Generated Raised ParserItem ParserPipeline :=
  (Generated.emit ((segmentReports pipeline.reassembler).map ParserItem.report)).bind fun _ =>
    match pipeline.decoder.flush with
    | .error reason => .raise reason
    | .ok flushed =>
        (Generated.emit ((remainderReports flushed.1).map ParserItem.report)).bind fun _ =>
          .done { pipeline with
            reassembler := (TcpReassembler.discardIncomplete pipeline.reassembler).1
            decoder := flushed.2 }

/-- `parse_stream` of a pipeline with an observer. -/
def parseStream (packets : List TCPPacket) (pipeline : ParserPipeline) (world : ω) :
    Generated Raised ParserItem (ParserPipeline × ω) :=
  (parsePackets sessionId rules traceId packets pipeline world).bind fun parsed =>
    (discardIncompleteBuffers parsed.1).bind fun emptied => .done (emptied, parsed.2)

end

section

variable {sessionId : SessionKey → Datetime → String} {rules : ParserRules ω}
  {normaliser : EventNormaliser} {traceId : Option Uuid}

/-- The reports of a message that is framed, before its event. -/
def messageReports (rules : ParserRules ω) (message : TimestampedMessage) (world : ω) :
    List ParserReport :=
  .messageReconstructed message.data.length (rules.now world).1 ::
    extractReports rules.cases message.data

theorem parseMessages_skip {message : TimestampedMessage}
    (parsed : extracted? rules.cases message.data = none) (rest : List TimestampedMessage)
    (world : ω) :
    parseMessages rules normaliser traceId (message :: rest) world =
      (Generated.emit ((messageReports rules message world).map ParserItem.report)).bind fun _ =>
        parseMessages rules normaliser traceId rest (rules.now world).2 := by
  rw [parseMessages, parsed]
  rfl

theorem parseMessages_raise {message : TimestampedMessage} {extracted : ExtractedEventFields}
    {world after : ω} {reason : Raised}
    (parsed : extracted? rules.cases message.data = some extracted)
    (failed : EventNormaliser.normalise rules normaliser traceId extracted message.timestamp
      (rules.now world).2 = (.error reason, after)) (rest : List TimestampedMessage) :
    parseMessages rules normaliser traceId (message :: rest) world =
      (Generated.emit ((messageReports rules message world).map ParserItem.report)).bind fun _ =>
        .raise reason := by
  simp only [parseMessages, parsed, failed]
  rfl

theorem parseMessages_yield {message : TimestampedMessage} {extracted : ExtractedEventFields}
    {world after : ω} {event : SipRegistrationEvent}
    (parsed : extracted? rules.cases message.data = some extracted)
    (normalised : EventNormaliser.normalise rules normaliser traceId extracted message.timestamp
      (rules.now world).2 = (.ok event, after)) (rest : List TimestampedMessage) :
    parseMessages rules normaliser traceId (message :: rest) world =
      (Generated.emit ((messageReports rules message world).map ParserItem.report)).bind fun _ =>
        .yield (.report (.eventEmitted "sip.registration" event.eventId))
          (.yield (.event event) (parseMessages rules normaliser traceId rest after)) := by
  simp only [parseMessages, parsed, normalised]
  rfl

theorem events_parseMessages (steady : ∀ world, (rules.now world).2 = world)
    (messages : List TimestampedMessage) (world : ω) :
    (parseMessages rules normaliser traceId messages world).pick ParserItem.event? =
      ParserPipeline.parseMessages rules normaliser traceId messages world := by
  induction messages generalizing world with
  | nil => rfl
  | cons message rest ih =>
      rcases parsed : extracted? rules.cases message.data with _ | extracted
      · rw [parseMessages_skip parsed, ParserPipeline.parseMessages_skip parsed,
          Generated.pick_emit_bind ParserItem.event?_map_report, steady, ih]
      · rcases normalised : EventNormaliser.normalise rules normaliser traceId extracted
          message.timestamp world with ⟨reason | event, after⟩
        · rw [parseMessages_raise parsed ((steady world).symm ▸ normalised),
            ParserPipeline.parseMessages_raise parsed normalised,
            Generated.pick_emit_bind ParserItem.event?_map_report, Generated.pick_raise]
        · have seen : ParserItem.event? (.event event) = some event := rfl
          rw [parseMessages_yield parsed ((steady world).symm ▸ normalised),
            ParserPipeline.parseMessages_yield parsed normalised,
            Generated.pick_emit_bind ParserItem.event?_map_report, Generated.pick_yield_none rfl,
            Generated.pick_yield_some seen, ih]

theorem events_parseChunks (steady : ∀ world, (rules.now world).2 = world)
    (chunks : List TimestampedChunk) (decoder : MessageDecoder) (world : ω) :
    (parseChunks rules normaliser traceId chunks decoder world).pick ParserItem.event? =
      ParserPipeline.parseChunks rules normaliser traceId chunks decoder world := by
  have framed : ∀ framed world,
      (parseFramed rules normaliser traceId framed world).pick ParserItem.event? =
        ParserPipeline.parseFramed rules normaliser traceId framed world := by
    intro framed world
    rw [parseFramed, ParserPipeline.parseFramed, Generated.pick_bind, events_parseMessages steady]
    cases framed.ended <;> rfl
  induction chunks generalizing decoder world with
  | nil => rfl
  | cons chunk rest ih =>
      rw [parseChunks, ParserPipeline.parseChunks, Generated.pick_bind, framed]
      simp only [ih]

theorem events_parsePackets (steady : ∀ world, (rules.now world).2 = world)
    (packets : List TCPPacket) (pipeline : ParserPipeline) (world : ω) :
    (parsePackets sessionId rules traceId packets pipeline world).pick ParserItem.event? =
      ParserPipeline.parsePackets rules traceId packets pipeline world := by
  induction packets generalizing pipeline world with
  | nil => rfl
  | cons packet rest ih =>
      rw [parsePackets, ParserPipeline.parsePackets,
        Generated.pick_emit_bind ParserItem.event?_map_report, Generated.pick_bind,
        events_parseChunks steady]
      congr 1
      funext fed
      rw [Generated.pick_emit_bind ParserItem.event?_map_report, ih]

/-- Where reading the clock disturbs nothing, an observer changes none of the events, neither how
the run ends nor the state it ends in. -/
theorem events_parseStream (steady : ∀ world, (rules.now world).2 = world)
    (packets : List TCPPacket) (pipeline : ParserPipeline) (world : ω) :
    (parseStream sessionId rules traceId packets pipeline world).pick ParserItem.event? =
      ParserPipeline.parseStream rules traceId packets pipeline world := by
  rw [parseStream, ParserPipeline.parseStream, Generated.pick_bind, events_parsePackets steady]
  congr 1
  funext parsed
  rw [discardIncompleteBuffers, ParserPipeline.discardIncompleteBuffers, Generated.pick_bind,
    Generated.pick_emit_bind ParserItem.event?_map_report]
  rcases parsed.1.decoder.flush with reason | flushed
  · rfl
  · show (Generated.pick _ ((Generated.emit _).bind _)).bind _ = _
    rw [Generated.pick_emit_bind ParserItem.event?_map_report]
    rfl

end

end ParserPipeline.Observed

end SignalForge
