import SignalForge.EventNormaliser
import SignalForge.MessageDecoder

/-! The parser pipeline: packets reassembled, framed, parsed, extracted and normalised. A
packet timestamp without a timezone is read as UTC and modelled as a UTC datetime. -/

set_option autoImplicit false

namespace SignalForge

/-- The stages that keep state. The emitter is built without a callback or an id provider, so
it passes events on unchanged. -/
structure ParserPipeline where
  normaliser : EventNormaliser
  reassembler : TcpReassembler.State := TcpReassembler.fresh
  decoder : MessageDecoder := {}

namespace ParserPipeline

variable {ω : Type}

/-- `ParserPipeline(store_id)`. -/
def create (storeId : Str) : Except Raised ParserPipeline :=
  (EventNormaliser.create storeId).map fun normaliser => { normaliser := normaliser }

/-- The fields of a message the parser and the extractor let through. -/
def extracted? (cases : CaseMaps) (data : Bytes) : Option ExtractedEventFields :=
  match SipParser.parse cases data with
  | none => none
  | some message =>
      match EventExtractor.extract message with
      | .error (.unsupportedProtocolEvent _) => none
      | .ok extracted => extracted

/-- The body of the innermost loop, for each message framed. -/
def parseMessages (rules : ParserRules ω) (normaliser : EventNormaliser) (traceId : Option Uuid) :
    List TimestampedMessage → ω → Generated Raised SipRegistrationEvent ω
  | [], world => .done world
  | framedMessage :: rest, world =>
      match extracted? rules.cases framedMessage.data with
      | none => parseMessages rules normaliser traceId rest world
      | some extracted =>
          match EventNormaliser.normalise rules normaliser traceId extracted
              framedMessage.timestamp world with
          | (.error reason, _) => .raise reason
          | (.ok event, after) => .yield event (parseMessages rules normaliser traceId rest after)

/-- Messages are parsed as the decoder yields them. -/
def parseFramed (rules : ParserRules ω) (normaliser : EventNormaliser) (traceId : Option Uuid)
    (framed : Generated Raised TimestampedMessage MessageDecoder) (world : ω) :
    Generated Raised SipRegistrationEvent (MessageDecoder × ω) :=
  (parseMessages rules normaliser traceId framed.yielded world).bind fun after =>
    match framed.ended with
    | .error reason => .raise reason
    | .ok decoder => .done (decoder, after)

def parseChunks (rules : ParserRules ω) (normaliser : EventNormaliser) (traceId : Option Uuid) :
    List TimestampedChunk → MessageDecoder → ω →
      Generated Raised SipRegistrationEvent (MessageDecoder × ω)
  | [], decoder, world => .done (decoder, world)
  | chunk :: rest, decoder, world =>
      (parseFramed rules normaliser traceId (decoder.feed chunk) world).bind fun fed =>
        parseChunks rules normaliser traceId rest fed.1 fed.2

def parsePackets (rules : ParserRules ω) (traceId : Option Uuid) :
    List TCPPacket → ParserPipeline → ω → Generated Raised SipRegistrationEvent (ParserPipeline × ω)
  | [], pipeline, world => .done (pipeline, world)
  | packet :: rest, pipeline, world =>
      let processed := TcpReassembler.processPacket pipeline.reassembler packet
      (parseChunks rules pipeline.normaliser traceId processed.2 pipeline.decoder world).bind
        fun fed => parsePackets rules traceId rest
          { pipeline with reassembler := processed.1, decoder := fed.1 } fed.2

def discardIncompleteBuffers (pipeline : ParserPipeline) : Except Raised ParserPipeline :=
  match pipeline.decoder.flush with
  | .error reason => .error reason
  | .ok flushed => .ok { pipeline with
      reassembler := (TcpReassembler.discardIncomplete pipeline.reassembler).1
      decoder := flushed.2 }

def parseStream (rules : ParserRules ω) (traceId : Option Uuid) (packets : List TCPPacket)
    (pipeline : ParserPipeline) (world : ω) :
    Generated Raised SipRegistrationEvent (ParserPipeline × ω) :=
  (parsePackets rules traceId packets pipeline world).bind fun parsed =>
    match discardIncompleteBuffers parsed.1 with
    | .error reason => .raise reason
    | .ok emptied => .done (emptied, parsed.2)

end ParserPipeline

end SignalForge
