import SignalForge.ParserPipelineSessions
import SignalForge.TcpReassemblerWaiting

/-! SIP messages with bodies on one connection. The decoder cuts at header terminators alone,
so what a body leaves behind its last one is put in front of the next message. -/

set_option autoImplicit false

namespace SignalForge.ParserPipeline

open EventNormaliser MessageDecoder TcpReassembler Framing

/-- A header block: it starts with a start line and ends where its first terminator does. -/
structure HeaderBlock (header : Bytes) : Prop where
  ends : ∃ offset, IsLeftmost headerTerminator header offset ∧
    header.length = offset + headerTerminator.length
  begins : ∀ first ∈ header.head?, first ∉ headerTerminator

structure SentMessage where
  header : Bytes
  body : Bytes
  block : HeaderBlock header

def stream (messages : List SentMessage) : Bytes :=
  messages.flatMap fun message => message.header ++ message.body

/-- The blocks the messages are framed into behind some bytes carried over, and the bytes left:
each header with what is carried over in front of it, then the terminated pieces of the body. -/
inductive Blocks : Bytes → List SentMessage → List Bytes → Bytes → Prop
  | nil (carry : Bytes) : Blocks carry [] [] carry
  | cons {carry left last : Bytes} {message : SentMessage} {rest : List SentMessage}
      {pieces blocks : List Bytes} (cut : SplitAfter headerTerminator message.body pieces left)
      (later : Blocks left rest blocks last) :
      Blocks carry (message :: rest) ((carry ++ message.header) :: (pieces ++ blocks)) last

theorem terminator_ne_nil : headerTerminator ≠ [] := by decide

theorem blocks_exist (carry : Bytes) (messages : List SentMessage) :
    ∃ blocks last, Blocks carry messages blocks last := by
  induction messages generalizing carry with
  | nil => exact ⟨[], carry, .nil carry⟩
  | cons message rest ih =>
      obtain ⟨pieces, left, cut⟩ := SplitAfter.exists_of terminator_ne_nil message.body
      obtain ⟨blocks, last, later⟩ := ih left
      exact ⟨_, last, .cons cut later⟩

/-- The decoder's framing of the whole stream is those blocks. -/
theorem Blocks.split {carry last : Bytes} {messages : List SentMessage} {blocks : List Bytes}
    (framed : Blocks carry messages blocks last)
    (absent : ∀ offset, ¬ OccursAt headerTerminator carry offset) :
    SplitAfter headerTerminator (carry ++ stream messages) blocks last := by
  induction framed with
  | nil carry =>
      rw [stream, List.flatMap_nil, List.append_nil]
      exact .rest absent
  | @cons carry left last message rest pieces blocks cut later ih =>
      obtain ⟨offset, leftmost, size⟩ := message.block.ends
      have boundary := leftmost.after absent message.block.begins
      have whole : carry ++ stream (message :: rest) =
          (carry ++ message.header) ++ (message.body ++ stream rest) := by
        rw [stream, List.flatMap_cons, ← stream, List.append_assoc, List.append_assoc]
      have length : carry.length + offset + headerTerminator.length =
          (carry ++ message.header).length := by
        rw [List.length_append, size, Nat.add_assoc]
      have behind : SplitAfter headerTerminator
          (((carry ++ message.header) ++ (message.body ++ stream rest)).drop
            (carry.length + offset + headerTerminator.length)) (pieces ++ blocks) last := by
        rw [length, List.drop_left]
        exact cut.append terminator_ne_nil (ih cut.rest_absent)
      have piece := SplitAfter.piece
        (boundary.append terminator_ne_nil (message.body ++ stream rest)) behind
      rw [length, List.take_left] at piece
      rw [whole]
      exact piece

/-- Packets in order, each behind the bytes of the ones before. -/
def InTurn : Nat → List TCPPacket → Prop
  | _, [] => True
  | next, packet :: rest =>
      packet.sequenceNumber = next ∧ InTurn (next + packet.payload.length) rest

theorem handlePacket_inTurn (session : StreamState) (packet : TCPPacket)
    (clear : session.bufferedSegments = .empty)
    (next : session.expectedSequence = 0 ∨ session.expectedSequence = packet.sequenceNumber) :
    yielded (handlePacket session packet).2 = packet.payload ∧
      (handlePacket session packet).1.bufferedSegments = .empty ∧
      (handlePacket session packet).1.expectedSequence =
        packet.sequenceNumber + packet.payload.length := by
  have opened : openedAt session.expectedSequence packet = packet.sequenceNumber := by
    unfold openedAt
    split
    · rfl
    · exact next.resolve_left ‹_›
  have handled := handlePacket_opened session packet
  have still : (openedSession session packet).bufferedSegments = .empty := clear
  have expected : (openedSession session packet).expectedSequence = packet.sequenceNumber := opened
  generalize handlePacket session packet = result at handled ⊢
  cases handled with
  | below old => omega
  | ahead early => omega
  | empty next blank =>
      refine ⟨by rw [blank]; rfl, still, ?_⟩
      rw [blank, List.length_nil, Nat.add_zero]
      exact expected
  | next next full =>
      have flushed : ∀ expectedSequence, flushBuffer
          { openedSession session packet with expectedSequence } =
            ({ openedSession session packet with expectedSequence }, []) := by
        intro expectedSequence
        unfold flushBuffer
        rw [still]
        rfl
      rw [flushed]
      refine ⟨?_, still, by rw [← expected]⟩
      rw [yielded_cons, yielded_nil, List.append_nil]

theorem handlePackets_inTurn (packets : List TCPPacket) (start : Nat) (session : StreamState)
    (clear : session.bufferedSegments = .empty)
    (next : session.expectedSequence = 0 ∨ session.expectedSequence = start)
    (inTurn : InTurn start packets) :
    yielded (handlePackets session packets).2.flatten = packets.flatMap TCPPacket.payload := by
  induction packets generalizing start session with
  | nil => rfl
  | cons packet rest ih =>
      obtain ⟨number, later⟩ := inTurn
      have step := handlePacket_inTurn session packet clear (by rwa [number])
      rw [handlePackets, List.flatten_cons, yielded_append, step.1, List.flatMap_cons,
        ih _ _ step.2.1 (Or.inr (by rw [step.2.2, number])) later]

/-- What the packets of one connection, sent in order, hand over. -/
theorem handedOver_inTurn (packets : List TCPPacket) (key : SessionKey) (start : Nat)
    (sameKey : ∀ packet ∈ packets, packetKey packet = key) (inTurn : InTurn start packets) :
    (handedOver fresh packets).flatMap TimestampedChunk.data =
      packets.flatMap TCPPacket.payload := by
  unfold handedOver
  rw [(processPackets_sameKey fresh key packets sameKey).2, streamOf_fresh]
  exact handlePackets_inTurn packets start {} rfl (Or.inl rfl) inTurn

theorem framing_blocks (messages : List SentMessage) (packets : List TCPPacket) (key : SessionKey)
    (start : Nat) (sameKey : ∀ packet ∈ packets, packetKey packet = key)
    (inTurn : InTurn start packets)
    (carried : packets.flatMap TCPPacket.payload = stream messages) {blocks : List Bytes}
    {last : Bytes} (framed : Blocks [] messages blocks last) :
    (framing packets).yielded.map TimestampedMessage.data = blocks := by
  obtain ⟨found, decoder, remainder, fed, flushed, split, _⟩ :=
    feedAll_splits_stream (handedOver fresh packets)
  have whole := framed.split (find?_eq_none terminator_ne_nil rfl)
  rw [handedOver_inTurn packets key start sameKey inTurn, carried] at split
  have same := split.unique whole
  unfold framing
  rw [fed]
  exact same.1

/-- The message before leaves nothing behind the last terminator in its body. -/
def StartsClean (before : List SentMessage) : Prop :=
  ∀ previous ∈ before.getLast?, ∃ pieces, SplitAfter headerTerminator previous.body pieces []

theorem Blocks.header_mem {carry last : Bytes} {before after : List SentMessage}
    {message : SentMessage} {blocks : List Bytes}
    (framed : Blocks carry (before ++ message :: after) blocks last)
    (first : before = [] → carry = []) (clean : StartsClean before) :
    message.header ∈ blocks := by
  induction before generalizing carry blocks with
  | nil =>
      cases framed with
      | cons cut later =>
          rw [first rfl, List.nil_append]
          exact List.mem_cons_self ..
  | cons previous rest ih =>
      cases framed with
      | cons cut later =>
          refine List.mem_cons_of_mem _ (List.mem_append_right _ (ih later ?_ ?_))
          · intro none
            obtain ⟨pieces, whole⟩ := clean previous (by rw [none]; rfl)
            exact (cut.unique whole).2
          · intro other member
            refine clean other ?_
            rw [List.getLast?_cons]
            cases rest with
            | nil => cases member
            | cons _ _ => simpa [List.getLast?_cons] using member

theorem Blocks.bodiless {last : Bytes} {messages : List SentMessage} {blocks : List Bytes}
    (framed : Blocks [] messages blocks last) (empty : ∀ message ∈ messages, message.body = []) :
    blocks = messages.map SentMessage.header := by
  generalize none : ([] : Bytes) = carry at framed
  induction framed with
  | nil => rfl
  | @cons carry left last message rest pieces blocks cut later ih =>
      have nothing : SplitAfter headerTerminator message.body [] [] := by
        rw [empty message (List.mem_cons_self ..)]
        exact .rest (find?_eq_none terminator_ne_nil rfl)
      have same := cut.unique nothing
      rw [ih (fun other member => empty other (List.mem_cons_of_mem _ member)) same.2.symm, same.1,
        ← none]
      rfl

/-- What a run makes of the messages sent. -/
structure Receives {ω : Type} (rules : ParserRules ω) (normaliser : EventNormaliser)
    (messages : List SentMessage) (framed : List TimestampedMessage)
    (events : List SipRegistrationEvent) : Prop where
  blocks : ∃ last, Blocks [] messages (framed.map TimestampedMessage.data) last
  described : events.map observation = framed.filterMap (observed? rules normaliser)
  emitted : ∀ before message after, messages = before ++ message :: after → StartsClean before →
    ∀ fields, extracted? rules.cases message.header = some fields →
      ∃ time described, observe rules normaliser fields time = .ok described ∧
        described ∈ events.map observation
  bodiless : (∀ message ∈ messages, message.body = []) →
    framed.map TimestampedMessage.data = messages.map SentMessage.header

/-- Messages sent in order on one connection, whatever their bodies and however they are cut
into packets, of which the normaliser refuses no REGISTER framed: the events are those of the
header blocks, each with what the body before left in front of it, and of the terminated parts
of bodies. -/
theorem parseStream_receives {ω : Type} (rules : ParserRules ω) (normaliser : EventNormaliser)
    (traceId : Option Uuid) (messages : List SentMessage) (packets : List TCPPacket)
    (key : SessionKey) (start : Nat) (sameKey : ∀ packet ∈ packets, packetKey packet = key)
    (inTurn : InTurn start packets)
    (carried : packets.flatMap TCPPacket.payload = stream messages) (world : ω)
    (acceptable : AcceptableInTurn rules traceId (framing packets).yielded world) :
    (∃ final, (parseStream rules traceId packets { normaliser := normaliser } world).ended =
      .ok final) ∧
    Receives rules normaliser messages (framing packets).yielded
      (parseStream rules traceId packets { normaliser := normaliser } world).yielded := by
  have events : (parseStream rules traceId packets { normaliser := normaliser }
      world).yielded.map observation = _ := (parseStream_observed packets world acceptable).2
  refine ⟨(parseStream_observed packets world acceptable).1, ?_⟩
  obtain ⟨blocks, last, framed⟩ := blocks_exist [] messages
  have data := framing_blocks messages packets key start sameKey inTurn carried framed
  rw [← data] at framed
  refine ⟨⟨last, framed⟩, events, ?_, framed.bodiless⟩
  intro before message after located clean fields parsed
  rw [located] at framed
  obtain ⟨received, known, same⟩ := List.mem_map.mp (framed.header_mem (fun _ => rfl) clean)
  rw [← same] at parsed
  have registered : (fields, received.timestamp) ∈
      registrations rules.cases (framing packets).yielded :=
    List.mem_filterMap.mpr ⟨received, known, by rw [parsed]; rfl⟩
  obtain ⟨place, listed⟩ := List.mem_iff_getElem?.mp registered
  obtain ⟨describable, timely⟩ := acceptable place _ listed
  obtain ⟨event, between, normalised⟩ :
      (normalise rules normaliser traceId fields received.timestamp).Returns
        ((advance rules traceId)^[place] world) :=
    normalise_returns describable timely
  have described := (normalise_ok normalised).2.2.1
  refine ⟨received.timestamp, observation event, described, ?_⟩
  rw [events]
  refine List.mem_filterMap.mpr ⟨received, known, ?_⟩
  rw [observed?, parsed, Option.bind_some, described]
  rfl

theorem headerBlock_of_find {header : Bytes} {offset : Nat}
    (found : find? headerTerminator header = some offset)
    (size : header.length = offset + headerTerminator.length)
    (begins : ∀ first ∈ header.head?, first ∉ headerTerminator) : HeaderBlock header :=
  ⟨⟨offset, find?_eq_some found, size⟩, begins⟩

def sampleText (text : String) : Bytes := text.toList.map fun c => c.toNat.toUInt8

def registerHeader : Bytes :=
  sampleText ("REGISTER sip:pbx SIP/2.0\r\nVia: SIP/2.0/UDP 10.0.0.2:5060\r\n" ++
    "From: <sip:h2@pbx>\r\nCSeq: 1 REGISTER\r\nCall-ID: a1\r\nContent-Length: 0\r\n\r\n")

def infoHeader (contentLength : String) : Bytes :=
  sampleText ("INFO sip:pbx SIP/2.0\r\nContent-Length: " ++ contentLength ++ "\r\n\r\n")

theorem registerHeader_block : HeaderBlock registerHeader := by
  have found : find? headerTerminator registerHeader = some 126 := by decide +kernel
  exact headerBlock_of_find found (by decide +kernel) (by decide +kernel)

theorem infoHeader_block_seven : HeaderBlock (infoHeader "7") := by
  have found : find? headerTerminator (infoHeader "7") = some 39 := by decide +kernel
  exact headerBlock_of_find found (by decide +kernel) (by decide +kernel)

theorem infoHeader_block_three : HeaderBlock (infoHeader "3") := by
  have found : find? headerTerminator (infoHeader "3") = some 39 := by decide +kernel
  exact headerBlock_of_find found (by decide +kernel) (by decide +kernel)

/-- A message whose body ends in a terminator, and a REGISTER behind it. -/
def sampleTerminated : List SentMessage :=
  [⟨infoHeader "7", sampleText "v=0\r\n\r\n", infoHeader_block_seven⟩,
    ⟨registerHeader, [], registerHeader_block⟩]

/-- A message whose body does not, and the same REGISTER. -/
def sampleOpenEnded : List SentMessage :=
  [⟨infoHeader "3", sampleText "v=0", infoHeader_block_three⟩,
    ⟨registerHeader, [], registerHeader_block⟩]

/-- A stream sent in two packets, the second from its 60th byte on. -/
def samplePackets (messages : List SentMessage) : List TCPPacket :=
  [samplePacket 1 ((stream messages).take 60), samplePacket 61 ((stream messages).drop 60)]

theorem parseStream_receives_terminated :
    (∃ final, (parseStream sampleRules none (samplePackets sampleTerminated)
      { normaliser := samplePipeline.normaliser } ()).ended = .ok final) ∧
    Receives sampleRules samplePipeline.normaliser sampleTerminated
      (framing (samplePackets sampleTerminated)).yielded
      (parseStream sampleRules none (samplePackets sampleTerminated)
        { normaliser := samplePipeline.normaliser } ()).yielded :=
  parseStream_receives sampleRules samplePipeline.normaliser none sampleTerminated
    (samplePackets sampleTerminated) (packetKey (samplePacket 1 [])) 1 (by decide +kernel)
    ⟨rfl, by decide +kernel, trivial⟩ (by decide +kernel) ()
    (acceptableInTurn_sample (by decide +kernel))

/-- The body's three bytes are read as the start of the REGISTER's request line. -/
theorem register_behind_body_lost :
    (extracted? sampleRules.cases registerHeader).map (fun fields => fields.deviceLabel) =
      some "h2".toList ∧
    (sampleText "v=0").length = 3 ∧
    (samplePackets sampleOpenEnded).flatMap TCPPacket.payload = stream sampleOpenEnded ∧
    (parseStream sampleRules none (samplePackets sampleOpenEnded) samplePipeline ()).yielded =
      [] ∧
    (parseStream sampleRules none [samplePacket 1 registerHeader] samplePipeline
      ()).yielded.map (fun event => event.payload.deviceLabel) = ["h2".toList] :=
  ⟨by decide +kernel, by decide +kernel, by decide +kernel, by decide +kernel, by decide +kernel⟩

end SignalForge.ParserPipeline
