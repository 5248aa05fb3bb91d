import SignalForge.MessageDecoderFraming
import SignalForge.ParserPipeline

/-! The nested loops of the parser pipeline, flattened: a run parses the messages framed from
the chunks its packets hand over. -/

set_option autoImplicit false

namespace SignalForge.ParserPipeline

open MessageDecoder TcpReassembler

section

variable {ω : Type} {rules : ParserRules ω} {normaliser : EventNormaliser} {traceId : Option Uuid}

theorem parseMessages_skip {message : TimestampedMessage}
    (parsed : extracted? rules.cases message.data = none) (rest : List TimestampedMessage)
    (world : ω) :
    parseMessages rules normaliser traceId (message :: rest) world =
      parseMessages rules normaliser traceId rest world := by
  simp only [parseMessages, parsed]

theorem parseMessages_raise {message : TimestampedMessage} {extracted : ExtractedEventFields}
    {world after : ω} {reason : Raised}
    (parsed : extracted? rules.cases message.data = some extracted)
    (failed : EventNormaliser.normalise rules normaliser traceId extracted message.timestamp world =
      (.error reason, after)) (rest : List TimestampedMessage) :
    parseMessages rules normaliser traceId (message :: rest) world = .raise reason := by
  simp only [parseMessages, parsed, failed]

theorem parseMessages_yield {message : TimestampedMessage} {extracted : ExtractedEventFields}
    {world after : ω} {event : SipRegistrationEvent}
    (parsed : extracted? rules.cases message.data = some extracted)
    (normalised : EventNormaliser.normalise rules normaliser traceId extracted message.timestamp
      world = (.ok event, after)) (rest : List TimestampedMessage) :
    parseMessages rules normaliser traceId (message :: rest) world =
      .yield event (parseMessages rules normaliser traceId rest after) := by
  simp only [parseMessages, parsed, normalised]

theorem parseMessages_append (first second : List TimestampedMessage) (world : ω) :
    parseMessages rules normaliser traceId (first ++ second) world =
      (parseMessages rules normaliser traceId first world).bind fun after =>
        parseMessages rules normaliser traceId second after := by
  induction first generalizing world with
  | nil => rfl
  | cons message rest ih =>
      rw [List.cons_append, parseMessages, parseMessages]
      split
      · exact ih world
      · split
        · rfl
        · rw [ih, Generated.yield_bind]

/-- Parsing a framing in two parts is parsing one and then the other. -/
theorem parseFramed_bind (first : Generated Raised TimestampedMessage MessageDecoder)
    (next : MessageDecoder → Generated Raised TimestampedMessage MessageDecoder) (world : ω) :
    parseFramed rules normaliser traceId (first.bind next) world =
      (parseFramed rules normaliser traceId first world).bind fun fed =>
        parseFramed rules normaliser traceId (next fed.1) fed.2 := by
  obtain ⟨messages, ended⟩ := first
  cases ended with
  | error reason =>
      rw [Generated.bind_of_error rfl]
      simp only [parseFramed, Generated.bind_assoc, Generated.raise_bind]
  | ok decoder =>
      rw [Generated.bind_of_ok rfl]
      simp only [parseFramed, parseMessages_append, Generated.bind_assoc, Generated.done_bind]

theorem feedAll_append (decoder : MessageDecoder) (first second : List TimestampedChunk) :
    feedAll decoder (first ++ second) =
      (feedAll decoder first).bind fun fed => feedAll fed second := by
  induction first generalizing decoder with
  | nil => rfl
  | cons chunk rest ih => simp only [List.cons_append, feedAll, ih, Generated.bind_assoc]

theorem parseChunks_eq (chunks : List TimestampedChunk) (decoder : MessageDecoder) (world : ω) :
    parseChunks rules normaliser traceId chunks decoder world =
      parseFramed rules normaliser traceId (feedAll decoder chunks) world := by
  induction chunks generalizing decoder world with
  | nil => rfl
  | cons chunk rest ih => simp only [parseChunks, feedAll, parseFramed_bind, ih]

/-- The chunks packets hand over to the decoder. -/
def handedOver (reassembler : State) (packets : List TCPPacket) : List TimestampedChunk :=
  (processPackets reassembler packets).2.flatten

theorem parsePackets_eq (packets : List TCPPacket) (pipeline : ParserPipeline) (world : ω) :
    parsePackets rules traceId packets pipeline world =
      (parseFramed rules pipeline.normaliser traceId
        (feedAll pipeline.decoder (handedOver pipeline.reassembler packets)) world).bind fun fed =>
          .done ({ pipeline with
            reassembler := (processPackets pipeline.reassembler packets).1
            decoder := fed.1 }, fed.2) := by
  induction packets generalizing pipeline world with
  | nil => rfl
  | cons packet rest ih =>
      simp only [parsePackets, parseChunks_eq, ih, handedOver, processPackets, List.flatten_cons,
        feedAll_append, parseFramed_bind, Generated.bind_assoc]

/-- The decoder's marks account for the bytes it holds. -/
def Sound (pipeline : ParserPipeline) : Prop := ∃ times, Marked pipeline.decoder times

theorem sound_create {storeId : Str} {pipeline : ParserPipeline}
    (created : create storeId = .ok pipeline) : pipeline.Sound := by
  rw [create] at created
  rcases checked : EventNormaliser.create storeId with reason | normaliser
  · rw [checked] at created
    cases created
  · rw [checked] at created
    cases created
    exact ⟨[], marked_empty⟩

/-- The messages framed while packets are read. -/
def framedMessages (pipeline : ParserPipeline) (packets : List TCPPacket) :
    List TimestampedMessage :=
  (feedAll pipeline.decoder (handedOver pipeline.reassembler packets)).yielded

/-- The pipeline after all packets, its buffers discarded. -/
def emptied (pipeline : ParserPipeline) (packets : List TCPPacket) : ParserPipeline :=
  { pipeline with
    reassembler := (discardIncomplete (processPackets pipeline.reassembler packets).1).1
    decoder := {} }

theorem sound_emptied (pipeline : ParserPipeline) (packets : List TCPPacket) :
    (pipeline.emptied packets).Sound := ⟨[], marked_empty⟩

/-- Framing never raises, so a run only parses the messages framed from all its packets. -/
theorem parseStream_eq (packets : List TCPPacket) {pipeline : ParserPipeline}
    (sound : pipeline.Sound) (world : ω) :
    parseStream rules traceId packets pipeline world =
      (parseMessages rules pipeline.normaliser traceId (pipeline.framedMessages packets)
        world).bind fun after => .done (pipeline.emptied packets, after) := by
  obtain ⟨times, marked⟩ := sound
  obtain ⟨messages, left, later, fed, stillMarked⟩ :=
    marked.feedAll (handedOver pipeline.reassembler packets)
  obtain ⟨remainder, flushed, _⟩ := stillMarked.flush
  rw [parseStream, parsePackets_eq, framedMessages, fed]
  simp only [parseFramed, Generated.bind_assoc, Generated.done_bind, discardIncompleteBuffers,
    flushed, emptied]

end

end SignalForge.ParserPipeline
