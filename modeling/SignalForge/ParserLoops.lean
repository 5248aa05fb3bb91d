import SignalForge.Coupling
import SignalForge.ParserObserver

/-! The loops of `parse_stream` over the state they change in place, with an observer on every stage
or without: what a run leaves where it raises in the middle of a packet. -/

set_option autoImplicit false

namespace SignalForge

/-- A pipeline while a stream goes through it, and what is seen of that from outside. -/
structure Parsing (ω : Type) where
  pipeline : ParserPipeline
  world : ω
  items : List ParserItem

namespace Parsing

open ParserPipeline (extracted?)
open ParserPipeline.Observed (extractReports segmentReports remainderReports)
open TcpReassembler (State packetKey flushStep)

variable {ω : Type}

section

variable (observing : Bool)

/-- `if self.observer: ...` -/
def notify (reports : List ParserReport) : Call Raised (Parsing ω) Unit :=
  if observing then
    Call.write fun parsing => { parsing with items := parsing.items ++ reports.map .report }
  else pure ()

def inWorld {α : Type} (call : Call Raised ω α) : Call Raised (Parsing ω) α :=
  Call.zoom Parsing.world (fun parsing world => { parsing with world }) call

def writeSessions (sessions : State) : Call Raised (Parsing ω) Unit :=
  Call.write fun parsing =>
    { parsing with pipeline := { parsing.pipeline with reassembler := sessions } }

def writeDecoder (decoder : MessageDecoder) : Call Raised (Parsing ω) Unit :=
  Call.write fun parsing => { parsing with pipeline := { parsing.pipeline with decoder } }

section

variable (rules : ParserRules ω) (traceId : Option Uuid)

/-- `on_message_reconstructed`, with the clock read for it alone. -/
def reconstructed (message : TimestampedMessage) : Call Raised (Parsing ω) Unit :=
  if observing then do
    let timestamp ← inWorld (Call.total rules.now)
    notify observing [.messageReconstructed message.data.length timestamp]
  else pure ()

/-- The body of the innermost loop. -/
def parseMessage (message : TimestampedMessage) : Call Raised (Parsing ω) Unit := do
  notify observing (extractReports rules.cases message.data)
  match extracted? rules.cases message.data with
  | none => pure ()
  | some extracted => do
      let normaliser ← Call.read fun parsing => parsing.pipeline.normaliser
      let event ← inWorld
        (EventNormaliser.normalise rules normaliser traceId extracted message.timestamp)
      notify observing [.eventEmitted "sip.registration" event.eventId]
      Call.write fun parsing => { parsing with items := parsing.items ++ [.event event] }

/-- At most so many turns of the loop that takes messages off the front of the buffer. -/
def feedLoop : Nat → Call Raised (Parsing ω) Unit
  | 0 => pure ()
  | turns + 1 => do
      let decoder ← Call.read fun parsing => parsing.pipeline.decoder
      match Framing.find? MessageDecoder.headerTerminator decoder.buffer with
      | none => pure ()
      | some boundary => do
          let messageEnd := boundary + MessageDecoder.headerTerminator.length
          let observedAt ← Call.lift decoder.firstByteTimestamp
          let message : TimestampedMessage := ⟨observedAt, decoder.buffer.take messageEnd⟩
          reconstructed observing rules message
          writeDecoder (MessageDecoder.advanceMarks
            { decoder with buffer := decoder.buffer.drop messageEnd } messageEnd)
          parseMessage observing rules traceId message
          feedLoop turns

def feed (chunk : TimestampedChunk) : Call Raised (Parsing ω) Unit := do
  let decoder ← Call.read fun parsing => parsing.pipeline.decoder
  let accepted := decoder.accept chunk
  writeDecoder accepted
  feedLoop observing rules traceId accepted.buffer.length

def writeSession (key : SessionKey) (session : TCPSession) : Call Raised (Parsing ω) Unit :=
  Call.write fun parsing => { parsing with pipeline := { parsing.pipeline with
    reassembler := parsing.pipeline.reassembler.set key session } }

/-- While a segment is consumed it is popped, and the sequence number expected is still its own. -/
def flushLoop (key : SessionKey) : Nat → TCPSession → Call Raised (Parsing ω) Unit
  | 0, _ => pure ()
  | turns + 1, session =>
      match flushStep session.toStreamState with
      | none => pure ()
      | some (chunk, next) => do
          writeSession key { session with bufferedSegments := next.bufferedSegments }
          feed observing rules traceId chunk
          writeSession key { session with toStreamState := next }
          flushLoop key turns { session with toStreamState := next }

def handlePacket (key : SessionKey) (session : TCPSession) (packet : TCPPacket) :
    Call Raised (Parsing ω) Unit := do
  let seq := packet.sequenceNumber
  let session : TCPSession :=
    if session.expectedSequence = 0 then { session with expectedSequence := seq } else session
  writeSession key session
  if seq < session.expectedSequence then
    notify observing [.packetDropped (.outOfOrderRetransmit seq)]
  else if session.expectedSequence < seq then
    writeSession key { session with
      bufferedSegments := session.bufferedSegments.set seq ⟨packet.timestamp, packet.payload⟩ }
  else if packet.payload = [] then pure ()
  else do
    feed observing rules traceId ⟨packet.timestamp, packet.payload⟩
    let advanced : TCPSession :=
      { session with expectedSequence := session.expectedSequence + packet.payload.length }
    writeSession key advanced
    flushLoop observing rules traceId key advanced.bufferedSegments.length advanced

variable (sessionId : SessionKey → Datetime → String)

def processPacket (packet : TCPPacket) : Call Raised (Parsing ω) Unit := do
  let key := packetKey packet
  let sessions ← Call.read fun parsing => parsing.pipeline.reassembler
  let session := SessionTracker.getOrCreateSession sessions key packet.timestamp
  writeSession key session
  notify observing (SessionTracker.startReports sessionId sessions key packet.timestamp)
  handlePacket observing rules traceId key session packet
  if packet.fin then do
    let handled ← Call.read fun parsing => parsing.pipeline.reassembler
    let closed := SessionTracker.closeSession handled key packet.timestamp
    writeSessions closed
    notify observing (SessionTracker.endReports sessionId closed key packet.timestamp)
  else pure ()

def parsePackets : List TCPPacket → Call Raised (Parsing ω) Unit
  | [] => pure ()
  | packet :: rest => do
      processPacket observing rules traceId sessionId packet
      parsePackets rest

/-- `_discard_incomplete_buffers`. -/
def discardIncompleteBuffers : Call Raised (Parsing ω) Unit := do
  let sessions ← Call.read fun parsing => parsing.pipeline.reassembler
  writeSessions (TcpReassembler.discardIncomplete sessions).1
  notify observing (segmentReports sessions)
  let decoder ← Call.read fun parsing => parsing.pipeline.decoder
  let flushed ← Call.lift decoder.flush
  writeDecoder flushed.2
  notify observing (remainderReports flushed.1)

def parseStream (packets : List TCPPacket) : Call Raised (Parsing ω) Unit := do
  parsePackets observing rules traceId sessionId packets
  discardIncompleteBuffers observing

end

end

/-- The same state, and the same events but for the reports between them. -/
structure Alike (watched alone : Parsing ω) : Prop where
  pipeline : watched.pipeline = alone.pipeline
  world : watched.world = alone.world
  events : watched.items.filterMap ParserItem.event? = alone.items.filterMap ParserItem.event?

/-- With an observer and without, a call comes to the same and leaves the same. -/
abbrev Watched {α : Type} (watched alone : Call Raised (Parsing ω) α) : Prop :=
  Call.Couples Alike Eq watched alone

section

variable {rules : ParserRules ω} {traceId : Option Uuid}

theorem watched_write {update : Parsing ω → Parsing ω}
    (alike : ∀ watched alone, Alike watched alone → Alike (update watched) (update alone)) :
    Watched (Call.write update) (Call.write update) :=
  (Call.couples_write alike).mono fun _ _ _ => rfl

/-- What changes the pipeline alone. -/
theorem Alike.change {watched alone : Parsing ω} (same : Alike watched alone)
    (change : ParserPipeline → ParserPipeline) :
    Alike { watched with pipeline := change watched.pipeline }
      { alone with pipeline := change alone.pipeline } :=
  { same with pipeline := congrArg change same.pipeline }

theorem watched_writeSessions (sessions : State) :
    Watched (writeSessions sessions : Call Raised (Parsing ω) Unit) (writeSessions sessions) :=
  watched_write fun _ _ same => same.change fun pipeline => { pipeline with reassembler := sessions }

theorem watched_writeSession (key : SessionKey) (session : TCPSession) :
    Watched (writeSession key session : Call Raised (Parsing ω) Unit) (writeSession key session) :=
  watched_write fun _ _ same => same.change fun pipeline =>
    { pipeline with reassembler := pipeline.reassembler.set key session }

theorem watched_writeDecoder (decoder : MessageDecoder) :
    Watched (writeDecoder decoder : Call Raised (Parsing ω) Unit) (writeDecoder decoder) :=
  watched_write fun _ _ same => same.change fun pipeline => { pipeline with decoder }

theorem watched_read {α : Type} (view : ParserPipeline → α) :
    Watched (Call.read fun parsing : Parsing ω => view parsing.pipeline)
      (Call.read fun parsing => view parsing.pipeline) :=
  Call.couples_read fun _ _ same => congrArg view same.pipeline

theorem watched_lift {α : Type} (result : Except Raised α) :
    Watched (Call.lift result : Call Raised (Parsing ω) α) (Call.lift result) :=
  Call.couples_lift (Call.matched_eq.mpr rfl)

theorem watched_inWorld {α : Type} (call : Call Raised ω α) :
    Watched (inWorld call) (inWorld call) := by
  have itself : Call.Couples Eq Eq call call := by
    rintro here _ rfl
    exact ⟨Call.matched_eq.mpr rfl, rfl⟩
  exact itself.zoom (fun _ _ same => same.world) fun _ _ same _ _ after => { same with world := after }

theorem Alike.report {watched alone : Parsing ω} (same : Alike watched alone)
    (reports : List ParserReport) :
    Alike { watched with items := watched.items ++ reports.map .report } alone := by
  have unseen : (reports.map ParserItem.report).filterMap ParserItem.event? = [] :=
    List.filterMap_eq_nil_iff.mpr ParserItem.event?_map_report
  refine { same with events := ?_ }
  rw [List.filterMap_append, unseen, List.append_nil]
  exact same.events

theorem watched_notify (reports : List ParserReport) :
    Watched (notify true reports : Call Raised (Parsing ω) Unit) (notify false reports) :=
  Call.couples_of_returns fun _ _ same => ⟨(), _, rfl, rfl, same.report reports⟩

theorem watched_reconstructed (steady : ∀ world, (rules.now world).2 = world)
    (message : TimestampedMessage) :
    Watched (reconstructed true rules message) (reconstructed false rules message) := by
  refine Call.couples_of_returns fun watched alone same => ?_
  have reported := same.report [.messageReconstructed message.data.length (rules.now watched.world).1]
  exact ⟨(), _, rfl, rfl, { reported with world := (steady watched.world).trans reported.world }⟩

theorem watched_parseMessage (message : TimestampedMessage) :
    Watched (parseMessage true rules traceId message) (parseMessage false rules traceId message) := by
  refine (watched_notify _).bind fun _ _ _ => ?_
  cases extracted? rules.cases message.data with
  | none => exact Call.couples_pure rfl
  | some extracted =>
      refine (watched_read _).bind ?_
      rintro normaliser _ rfl
      refine (watched_inWorld _).bind ?_
      rintro event _ rfl
      refine (watched_notify _).bind fun _ _ _ => watched_write fun _ _ same => ?_
      refine { same with events := ?_ }
      rw [List.filterMap_append, List.filterMap_append, same.events]

theorem watched_feedLoop (steady : ∀ world, (rules.now world).2 = world) (turns : Nat) :
    Watched (feedLoop true rules traceId turns) (feedLoop false rules traceId turns) := by
  induction turns with
  | zero => exact Call.couples_pure rfl
  | succ turns ih =>
      refine (watched_read _).bind ?_
      rintro decoder _ rfl
      cases Framing.find? MessageDecoder.headerTerminator decoder.buffer with
      | none => exact Call.couples_pure rfl
      | some boundary =>
          refine (watched_lift _).bind ?_
          rintro observedAt _ rfl
          refine (watched_reconstructed steady _).bind fun _ _ _ => ?_
          refine (watched_writeDecoder _).bind fun _ _ _ => ?_
          exact (watched_parseMessage _).bind fun _ _ _ => ih

theorem watched_feed (steady : ∀ world, (rules.now world).2 = world) (chunk : TimestampedChunk) :
    Watched (feed true rules traceId chunk) (feed false rules traceId chunk) := by
  refine (watched_read _).bind ?_
  rintro decoder _ rfl
  exact (watched_writeDecoder _).bind fun _ _ _ => watched_feedLoop steady _

theorem watched_flushLoop (steady : ∀ world, (rules.now world).2 = world) (key : SessionKey)
    (turns : Nat) (session : TCPSession) :
    Watched (flushLoop true rules traceId key turns session)
      (flushLoop false rules traceId key turns session) := by
  induction turns generalizing session with
  | zero => exact Call.couples_pure rfl
  | succ turns ih =>
      rw [flushLoop, flushLoop]
      cases flushStep session.toStreamState with
      | none => exact Call.couples_pure rfl
      | some turn =>
          refine (watched_writeSession _ _).bind fun _ _ _ => ?_
          refine (watched_feed steady _).bind fun _ _ _ => ?_
          exact (watched_writeSession _ _).bind fun _ _ _ => ih _

theorem watched_handlePacket (steady : ∀ world, (rules.now world).2 = world) (key : SessionKey)
    (session : TCPSession) (packet : TCPPacket) :
    Watched (handlePacket true rules traceId key session packet)
      (handlePacket false rules traceId key session packet) := by
  rw [handlePacket, handlePacket]
  generalize (if session.expectedSequence = 0 then _ else session : TCPSession) = opened
  refine (watched_writeSession _ _).bind fun _ _ _ => ?_
  split
  · exact watched_notify _
  · split
    · exact watched_writeSession _ _
    · split
      · exact Call.couples_pure rfl
      · refine (watched_feed steady _).bind fun _ _ _ => ?_
        exact (watched_writeSession _ _).bind fun _ _ _ => watched_flushLoop steady key _ _

variable {sessionId : SessionKey → Datetime → String}

theorem watched_processPacket (steady : ∀ world, (rules.now world).2 = world) (packet : TCPPacket) :
    Watched (processPacket true rules traceId sessionId packet)
      (processPacket false rules traceId sessionId packet) := by
  refine (watched_read _).bind ?_
  rintro sessions _ rfl
  refine (watched_writeSession _ _).bind fun _ _ _ => (watched_notify _).bind fun _ _ _ => ?_
  refine (watched_handlePacket steady _ _ packet).bind fun _ _ _ => ?_
  split
  · refine (watched_read _).bind ?_
    rintro handled _ rfl
    exact (watched_writeSessions _).bind fun _ _ _ => watched_notify _
  · exact Call.couples_pure rfl

theorem watched_parsePackets (steady : ∀ world, (rules.now world).2 = world)
    (packets : List TCPPacket) :
    Watched (parsePackets true rules traceId sessionId packets)
      (parsePackets false rules traceId sessionId packets) := by
  induction packets with
  | nil => exact Call.couples_pure rfl
  | cons packet rest ih => exact (watched_processPacket steady packet).bind fun _ _ _ => ih

theorem watched_discardIncompleteBuffers :
    Watched (discardIncompleteBuffers true : Call Raised (Parsing ω) Unit)
      (discardIncompleteBuffers false) := by
  refine (watched_read _).bind ?_
  rintro sessions _ rfl
  refine (watched_writeSessions _).bind fun _ _ _ => (watched_notify _).bind fun _ _ _ => ?_
  refine (watched_read _).bind ?_
  rintro decoder _ rfl
  refine (watched_lift _).bind ?_
  rintro flushed _ rfl
  exact (watched_writeDecoder _).bind fun _ _ _ => watched_notify _

theorem watched_parseStream (steady : ∀ world, (rules.now world).2 = world)
    (packets : List TCPPacket) :
    Watched (parseStream true rules traceId sessionId packets)
      (parseStream false rules traceId sessionId packets) :=
  (watched_parsePackets steady packets).bind fun _ _ _ => watched_discardIncompleteBuffers

end

/-- The call comes to what the generator does: it raises what that raises, shows what that yields,
and where it returns leaves what that stands for. -/
structure Follows {α : Type} (left : α → ParserPipeline × ω) (call : Call Raised (Parsing ω) Unit)
    (parsing : Parsing ω) (generated : Generated Raised ParserItem α) : Prop where
  result : (call parsing).1 = generated.ended.map fun _ => ()
  items : (call parsing).2.items = parsing.items ++ generated.yielded
  leaves : ∀ value, generated.ended = .ok value →
    ((call parsing).2.pipeline, (call parsing).2.world) = left value

section

variable {α β : Type} {left : α → ParserPipeline × ω} {leftLater : β → ParserPipeline × ω}
  {parsing : Parsing ω} {next : Call Raised (Parsing ω) Unit} {generated : Generated Raised ParserItem α}

theorem Follows.bind {first : Call Raised (Parsing ω) Unit}
    {later : α → Generated Raised ParserItem β} (here : Follows left first parsing generated)
    (after : ∀ value items,
      Follows leftLater next ⟨(left value).1, (left value).2, items⟩ (later value)) :
    Follows leftLater (first >>= fun _ => next) parsing (generated.bind later) := by
  obtain ⟨result, items, leaves⟩ := here
  rcases outcome : first parsing with ⟨reason | ⟨⟩, between⟩ <;>
    rcases ended : generated.ended with other | value <;>
    rw [outcome, ended] at result <;> cases result
  · rw [outcome] at items
    rw [Generated.bind_of_error ended]
    refine ⟨?_, ?_, fun _ returned => by cases returned⟩ <;> rw [Call.bind_of_error outcome]
    · rfl
    · exact items
  · have same := leaves value ended
    rw [outcome] at items same
    obtain ⟨resulted, shown, reached⟩ := after value between.items
    rw [← same] at resulted shown reached
    rw [Generated.bind_of_ok ended]
    refine ⟨?_, ?_, ?_⟩ <;> rw [Call.bind_of_ok outcome]
    · exact resulted
    · exact shown.trans (by rw [items, List.append_assoc])
    · exact reached

theorem follows_done {call : Call Raised (Parsing ω) Unit} {shown : List ParserItem} {value : α}
    (returned : (call parsing).1 = .ok ()) (items : (call parsing).2.items = parsing.items ++ shown)
    (same : ((call parsing).2.pipeline, (call parsing).2.world) = left value) :
    Follows left call parsing ⟨shown, .ok value⟩ where
  result := returned
  items := items
  leaves := by
    rintro _ ⟨⟩
    exact same

theorem follows_pure {value : α} (same : (parsing.pipeline, parsing.world) = left value) :
    Follows left (pure ()) parsing (.done value) :=
  follows_done rfl (List.append_nil _).symm same

theorem follows_notify {reports : List ParserReport} {value : α}
    (same : (parsing.pipeline, parsing.world) = left value) :
    Follows left (notify true reports) parsing
      ((Generated.emit (reports.map .report)).bind fun _ => .done value) :=
  follows_done rfl (congrArg (parsing.items ++ ·) (List.append_nil _).symm) same

theorem follows_write {update : Parsing ω → Parsing ω} {value : α}
    (same : ((update parsing).pipeline, (update parsing).world) = left value)
    (unseen : (update parsing).items = parsing.items) :
    Follows left (Call.write update) parsing (.done value) :=
  follows_done rfl (unseen.trans (List.append_nil _).symm) same

theorem follows_raise {call : Call Raised (Parsing ω) Unit} {reason : Raised}
    (raised : (call parsing).1 = .error reason) (unseen : (call parsing).2.items = parsing.items) :
    Follows left call parsing (.raise reason) :=
  ⟨raised, unseen.trans (List.append_nil _).symm, fun _ returned => by cases returned⟩

theorem Follows.afterNotify {reports : List ParserReport}
    (follows : Follows left next { parsing with items := parsing.items ++ reports.map .report }
      generated) :
    Follows left (notify true reports >>= fun _ => next) parsing
      ((Generated.emit (reports.map .report)).bind fun _ => generated) where
  result := follows.result
  items := follows.items.trans (List.append_assoc ..)
  leaves := follows.leaves

theorem Follows.afterWrite {update : Parsing ω → Parsing ω}
    (follows : Follows left next (update parsing) generated)
    (unseen : (update parsing).items = parsing.items) :
    Follows left (Call.write update >>= fun _ => next) parsing generated where
  result := follows.result
  items := unseen ▸ follows.items
  leaves := follows.leaves

theorem Follows.afterRead {γ : Type} {view : Parsing ω → γ} {later : γ → Call Raised (Parsing ω) Unit}
    (follows : Follows left (later (view parsing)) parsing generated) :
    Follows left (Call.read view >>= later) parsing generated :=
  ⟨follows.result, follows.items, follows.leaves⟩

end

section

variable {rules : ParserRules ω} {traceId : Option Uuid}

open ParserPipeline (Observed.parseMessages Observed.parseFramed Observed.parseChunks)
open ParserPipeline.Observed (messageReports parseMessages_skip parseMessages_raise
  parseMessages_yield)

theorem parseMessages_cons {normaliser : EventNormaliser} (message : TimestampedMessage)
    (rest : List TimestampedMessage) (world : ω) :
    Observed.parseMessages rules normaliser traceId (message :: rest) world =
      (Observed.parseMessages rules normaliser traceId [message] world).bind
        fun after => Observed.parseMessages rules normaliser traceId rest after := by
  rcases parsed : extracted? rules.cases message.data with _ | extracted
  · rw [parseMessages_skip parsed, parseMessages_skip parsed, Generated.bind_assoc]
    rfl
  · rcases normalised : EventNormaliser.normalise rules normaliser traceId extracted
      message.timestamp (rules.now world).2 with ⟨reason | event, after⟩
    · rw [parseMessages_raise parsed normalised, parseMessages_raise parsed normalised,
        Generated.bind_assoc]
      rfl
    · rw [parseMessages_yield parsed normalised, parseMessages_yield parsed normalised,
        Generated.bind_assoc]
      rfl

theorem parseFramed_yield {normaliser : EventNormaliser} (message : TimestampedMessage)
    (rest : Generated Raised TimestampedMessage MessageDecoder) (world : ω) :
    Observed.parseFramed rules normaliser traceId (.yield message rest) world =
      (Observed.parseMessages rules normaliser traceId [message] world).bind
        fun after => Observed.parseFramed rules normaliser traceId rest after := by
  rw [Observed.parseFramed, Generated.yield, parseMessages_cons, Generated.bind_assoc]
  rfl

variable {normaliser : EventNormaliser} {sessions : State} {world : ω} {items : List ParserItem}

/-- A message is reported, and then the decoder is rid of it. -/
theorem follows_reports {α : Type} {left : α → ParserPipeline × ω} {message : TimestampedMessage}
    {decoder kept : MessageDecoder} {next : Call Raised (Parsing ω) Unit}
    {generated : Generated Raised ParserItem α}
    (follows : ∀ items, Follows left next
      ⟨⟨normaliser, sessions, kept⟩, (rules.now world).2, items⟩ generated) :
    Follows left (do
        reconstructed true rules message
        writeDecoder kept
        notify true (extractReports rules.cases message.data)
        next) ⟨⟨normaliser, sessions, decoder⟩, world, items⟩
      ((Generated.emit ((messageReports rules message world).map ParserItem.report)).bind
        fun _ => generated) := by
  have later := follows (items ++
    [.report (.messageReconstructed message.data.length (rules.now world).1)] ++
    (extractReports rules.cases message.data).map .report)
  refine ⟨later.result, later.items.trans ?_, later.leaves⟩
  simp only [List.append_assoc]
  rfl

/-- One message, the decoder rid of it before it is parsed. -/
theorem follows_message {message : TimestampedMessage} {decoder kept : MessageDecoder} :
    Follows (fun after => (⟨normaliser, sessions, kept⟩, after)) (do
        reconstructed true rules message
        writeDecoder kept
        parseMessage true rules traceId message) ⟨⟨normaliser, sessions, decoder⟩, world, items⟩
      (Observed.parseMessages rules normaliser traceId [message] world) := by
  rcases parsed : extracted? rules.cases message.data with _ | extracted
  · rw [parseMessages_skip parsed, parseMessage, parsed]
    exact follows_reports fun items => follows_pure rfl
  · rcases normalised : EventNormaliser.normalise rules normaliser traceId extracted
      message.timestamp (rules.now world).2 with ⟨reason | event, after⟩
    · rw [parseMessages_raise parsed normalised, parseMessage, parsed]
      refine follows_reports fun items => follows_raise ?_ ?_ <;>
        simp only [Call.bind_apply, Call.read_apply, inWorld, Call.zoom, normalised]
    · rw [parseMessages_yield parsed normalised, parseMessage, parsed]
      refine follows_reports fun items => follows_done ?_ ?_ ?_ <;>
        simp only [Call.bind_apply, Call.read_apply, inWorld, Call.zoom, normalised, notify,
          ↓reduceIte, Call.write_apply]
      rw [List.append_assoc]
      rfl

theorem follows_feedLoop (turns : Nat) (decoder : MessageDecoder) (world : ω)
    (items : List ParserItem) :
    Follows (fun fed => (⟨normaliser, sessions, fed.1⟩, fed.2))
      (feedLoop true rules traceId turns) ⟨⟨normaliser, sessions, decoder⟩, world, items⟩
      (Observed.parseFramed rules normaliser traceId (MessageDecoder.feedLoop turns decoder)
        world) := by
  induction turns generalizing decoder world items with
  | zero => exact follows_pure rfl
  | succ turns ih =>
      refine .afterRead ?_
      rw [MessageDecoder.feedLoop]
      cases Framing.find? MessageDecoder.headerTerminator decoder.buffer with
      | none => exact follows_pure rfl
      | some boundary =>
          dsimp only
          cases decoder.firstByteTimestamp with
          | error reason => exact follows_raise rfl rfl
          | ok observedAt =>
              dsimp only
              rw [parseFramed_yield]
              exact follows_message.bind fun world items => ih _ world items

theorem follows_feed (chunk : TimestampedChunk) (decoder : MessageDecoder) :
    Follows (fun fed => (⟨normaliser, sessions, fed.1⟩, fed.2))
      (feed true rules traceId chunk) ⟨⟨normaliser, sessions, decoder⟩, world, items⟩
      (Observed.parseFramed rules normaliser traceId (decoder.feed chunk) world) :=
  .afterRead (.afterWrite (follows_feedLoop _ _ world items) rfl)

/-- The segments flushed, of a session that is in the table. -/
theorem follows_flushLoop (key : SessionKey) (turns : Nat) (session : TCPSession)
    (decoder : MessageDecoder) (world : ω) (items : List ParserItem) :
    Follows (fun fed => (⟨normaliser, sessions.set key { session with
          toStreamState := (TcpReassembler.flushLoop turns session.toStreamState).1 }, fed.1⟩, fed.2))
      (flushLoop true rules traceId key turns session)
      ⟨⟨normaliser, sessions.set key session, decoder⟩, world, items⟩
      (Observed.parseChunks rules normaliser traceId
        (TcpReassembler.flushLoop turns session.toStreamState).2 decoder world) := by
  induction turns generalizing session decoder world items with
  | zero => exact follows_pure rfl
  | succ turns ih =>
      rw [flushLoop, TcpReassembler.flushLoop]
      rcases flushStep session.toStreamState with _ | ⟨chunk, next⟩
      · exact follows_pure rfl
      · refine .afterWrite ((follows_feed chunk _).bind fun fed items => .afterWrite ?_ rfl) rfl
        simp only [OrderedDict.set_set]
        exact ih { session with toStreamState := next } fed.1 fed.2 items

theorem emit_append_bind {α β : Type} {first second : List ParserItem}
    {later : Generated Raised ParserItem α} {last : α → Generated Raised ParserItem β} :
    ((Generated.emit (first ++ second)).bind fun _ => later.bind last) =
      (Generated.emit first).bind fun _ =>
        ((Generated.emit second).bind fun _ => later).bind last := by
  rw [Generated.bind_assoc]
  simp only [Generated.emit_bind, List.append_assoc]

/-- The session as it is once its expected sequence number is known. -/
theorem opened_session (session : TCPSession) (seq : Nat) :
    ∃ opened : TCPSession, (if session.expectedSequence = 0 then
        { session with expectedSequence := seq } else session : TCPSession) = opened ∧
      (if session.expectedSequence = 0 then
        { session.toStreamState with expectedSequence := seq } else session.toStreamState) =
          opened.toStreamState ∧
      (∀ stream, ({ session with toStreamState := stream } : TCPSession) =
        { opened with toStreamState := stream }) ∧
      (seq < session.expectedSequence ↔ seq < opened.expectedSequence) := by
  by_cases first : session.expectedSequence = 0
  · refine ⟨{ session with expectedSequence := seq }, if_pos first, if_pos first, fun _ => rfl, ?_⟩
    rw [first]
    exact iff_of_false (Nat.not_lt_zero _) (Nat.lt_irrefl _)
  · exact ⟨session, if_neg first, if_neg first, fun _ => rfl, Iff.rfl⟩

theorem follows_handlePacket (key : SessionKey) (session : TCPSession) (packet : TCPPacket)
    (decoder : MessageDecoder) :
    Follows (fun fed => (⟨normaliser, sessions.set key { session with
          toStreamState := (TcpReassembler.handlePacket session.toStreamState packet).1 },
        fed.1⟩, fed.2))
      (handlePacket true rules traceId key session packet)
      ⟨⟨normaliser, sessions, decoder⟩, world, items⟩
      ((Generated.emit ((if packet.sequenceNumber < session.expectedSequence then
          [ParserReport.packetDropped (.outOfOrderRetransmit packet.sequenceNumber)] else []).map
            ParserItem.report)).bind fun _ =>
        Observed.parseChunks rules normaliser traceId
          (TcpReassembler.handlePacket session.toStreamState packet).2 decoder world) := by
  obtain ⟨opened, same, stream, rest, retransmit⟩ := opened_session session packet.sequenceNumber
  rw [handlePacket, TcpReassembler.handlePacket]
  dsimp only
  rw [same, stream]
  simp only [rest, retransmit]
  refine .afterWrite ?_ rfl
  by_cases late : packet.sequenceNumber < opened.expectedSequence
  · simp only [late, ↓reduceIte]
    exact follows_notify rfl
  · by_cases early : opened.expectedSequence < packet.sequenceNumber
    · simp only [late, early, ↓reduceIte]
      exact follows_write (by simp only [OrderedDict.set_set]) rfl
    · by_cases empty : packet.payload = []
      · simp only [late, early, empty, ↓reduceIte]
        exact follows_pure rfl
      · simp only [late, early, empty, ↓reduceIte]
        refine (follows_feed _ _).bind fun fed items => .afterWrite ?_ rfl
        simp only [OrderedDict.set_set]
        exact follows_flushLoop key opened.bufferedSegments.length { opened with
          expectedSequence := opened.expectedSequence + packet.payload.length } fed.1 fed.2 items

variable {sessionId : SessionKey → Datetime → String}

theorem follows_processPacket (packet : TCPPacket) (decoder : MessageDecoder) :
    Follows (fun fed => (⟨normaliser, (TcpReassembler.processPacket sessions packet).1, fed.1⟩, fed.2))
      (processPacket true rules traceId sessionId packet)
      ⟨⟨normaliser, sessions, decoder⟩, world, items⟩
      ((Generated.emit ((TcpReassembler.reportsBefore sessionId sessions packet).map
        ParserItem.report)).bind fun _ =>
          (Observed.parseChunks rules normaliser traceId
            (TcpReassembler.processPacket sessions packet).2 decoder world).bind fun fed =>
              (Generated.emit ((TcpReassembler.reportsAfter sessionId
                (TcpReassembler.processPacket sessions packet).1 packet).map
                  ParserItem.report)).bind fun _ => .done fed) := by
  have opening : (SessionTracker.getOrCreateSession sessions (packetKey packet)
      packet.timestamp).toStreamState = TcpReassembler.streamOf sessions (packetKey packet) :=
    TcpReassembler.getOrCreateSession_stream _ _ _
  rw [TcpReassembler.processPacket, TcpReassembler.reportsBefore, ← opening]
  refine .afterRead ?_
  dsimp only
  generalize SessionTracker.getOrCreateSession sessions (packetKey packet) packet.timestamp = session
  refine .afterWrite ?_ rfl
  rw [List.map_append, emit_append_bind]
  refine .afterNotify ?_
  refine (follows_handlePacket (packetKey packet) session packet decoder).bind fun fed items => ?_
  simp only [OrderedDict.set_set, TcpReassembler.reportsAfter]
  cases packet.fin with
  | true => exact .afterRead (.afterWrite (follows_notify rfl) rfl)
  | false => exact follows_pure rfl

theorem follows_parsePackets (packets : List TCPPacket) (sessions : State)
    (decoder : MessageDecoder) (world : ω) (items : List ParserItem) :
    Follows id (parsePackets true rules traceId sessionId packets)
      ⟨⟨normaliser, sessions, decoder⟩, world, items⟩
      (ParserPipeline.Observed.parsePackets sessionId rules traceId packets
        ⟨normaliser, sessions, decoder⟩ world) := by
  induction packets generalizing sessions decoder world items with
  | nil => exact follows_pure rfl
  | cons packet rest ih =>
      have whole : Follows id (parsePackets true rules traceId sessionId (packet :: rest))
          ⟨⟨normaliser, sessions, decoder⟩, world, items⟩ _ :=
        (follows_processPacket packet decoder).bind fun fed items => ih _ fed.1 fed.2 items
      rw [Generated.bind_assoc] at whole
      simp only [Generated.bind_assoc, Generated.done_bind] at whole
      exact whole

theorem follows_discardIncompleteBuffers (pipeline : ParserPipeline) (items : List ParserItem) :
    Follows id (discardIncompleteBuffers true) ⟨pipeline, world, items⟩
      ((ParserPipeline.Observed.discardIncompleteBuffers pipeline).bind
        fun emptied => .done (emptied, world)) := by
  rw [ParserPipeline.Observed.discardIncompleteBuffers, Generated.bind_assoc]
  refine .afterRead (.afterWrite (.afterNotify (.afterRead ?_)) rfl)
  dsimp only
  cases pipeline.decoder.flush with
  | error reason => exact follows_raise rfl rfl
  | ok flushed =>
      dsimp only
      rw [Generated.bind_assoc]
      simp only [Generated.done_bind]
      show Follows id (writeDecoder flushed.2 >>= fun _ => notify true _) _ _
      exact .afterWrite (follows_notify rfl) rfl

/-- The loops with an observer come to what the observed run does, also where they raise. -/
theorem follows_parseStream (packets : List TCPPacket) (pipeline : ParserPipeline) (world : ω) :
    Follows id (parseStream true rules traceId sessionId packets) ⟨pipeline, world, []⟩
      (ParserPipeline.Observed.parseStream sessionId rules traceId packets pipeline world) :=
  (follows_parsePackets packets _ _ world []).bind fun parsed items =>
    follows_discardIncompleteBuffers parsed.1 items

/-- Without an observer they come to what `parse_stream` does. -/
theorem generated_parseStream (steady : ∀ world, (rules.now world).2 = world)
    (packets : List TCPPacket) (pipeline : ParserPipeline) (world : ω) :
    let run := parseStream false rules traceId sessionId packets ⟨pipeline, world, []⟩
    let generated := ParserPipeline.parseStream rules traceId packets pipeline world
    run.1 = generated.ended.map (fun _ => ()) ∧
      run.2.items.filterMap ParserItem.event? = generated.yielded ∧
      ∀ left, generated.ended = .ok left → (run.2.pipeline, run.2.world) = left := by
  dsimp only
  have watched : Watched (parseStream true rules traceId sessionId packets)
      (parseStream false rules traceId sessionId packets) := watched_parseStream steady packets
  obtain ⟨matched, alike⟩ := watched ⟨pipeline, world, []⟩ ⟨pipeline, world, []⟩ ⟨rfl, rfl, rfl⟩
  have follows : Follows id (parseStream true rules traceId sessionId packets)
      ⟨pipeline, world, []⟩ _ := follows_parseStream packets pipeline world
  rw [← ParserPipeline.Observed.events_parseStream steady packets pipeline world]
  refine ⟨(Call.matched_eq.mp matched).symm.trans follows.result, ?_, fun left returned => ?_⟩
  · rw [← alike.events, follows.items]
    rfl
  · rw [← alike.pipeline, ← alike.world]
    exact follows.leaves left returned

/-- An observer whose methods return only watches: where reading the clock disturbs nothing, a run
with it yields the same events, and returns or raises the same and leaves the same behind. -/
theorem parseStream_watched (steady : ∀ world, (rules.now world).2 = world)
    (packets : List TCPPacket) (parsing : Parsing ω) :
    (parseStream true rules traceId sessionId packets parsing).1 =
        (parseStream false rules traceId sessionId packets parsing).1 ∧
      Alike (parseStream true rules traceId sessionId packets parsing).2
        (parseStream false rules traceId sessionId packets parsing).2 := by
  obtain ⟨matched, alike⟩ := watched_parseStream steady packets parsing parsing ⟨rfl, rfl, rfl⟩
  exact ⟨Call.matched_eq.mp matched, alike⟩

/-- A run that raises at its first message. -/
theorem parseStream_watched_raising :
    let watched := parseStream true ParserPipeline.sampleRules none (fun _ _ => "session")
      ParserPipeline.portlessVia ⟨ParserPipeline.samplePipeline, (), []⟩
    let alone := parseStream false ParserPipeline.sampleRules none (fun _ _ => "session")
      ParserPipeline.portlessVia ⟨ParserPipeline.samplePipeline, (), []⟩
    watched.1 = .error (.valueError "does not appear to be an IPv4 or IPv6 address") ∧
      watched.1 = alone.1 ∧ Alike watched.2 alone.2 :=
  ⟨by decide +kernel, parseStream_watched (fun _ => rfl) _ _⟩

end

end Parsing

end SignalForge
