import SignalForge.ParserObserver

/-! What the reports of a run add up to: every byte of every packet, and the life of every
session. -/

set_option autoImplicit false

namespace Generated

variable {ε α β γ : Type}

/-- A sequence that returned yielded what its parts did. -/
theorem bind_ok {first : Generated ε α β} {next : β → Generated ε α γ} {final : γ}
    (returned : (first.bind next).ended = .ok final) :
    ∃ value, first.ended = .ok value ∧ (next value).ended = .ok final ∧
      (first.bind next).yielded = first.yielded ++ (next value).yielded := by
  obtain ⟨value, here, later⟩ := bind_ended_eq_ok.mp returned
  exact ⟨value, here, later, by rw [bind_of_ok here]⟩

end Generated

namespace SignalForge

/-- The bytes a report accounts for. -/
def ParserReport.bytes : ParserReport → Nat
  | .messageReconstructed sizeBytes _ => sizeBytes
  | .packetDropped (.incompleteReassembly _ bytes) => bytes
  | .packetDropped (.incompleteMessage bytes _) => bytes
  | _ => 0

/-- The sequence number of a retransmission reported dropped. -/
def ParserReport.retransmit? : ParserReport → Option Nat
  | .packetDropped (.outOfOrderRetransmit sequence) => some sequence
  | _ => none

namespace ParserItem

/-- What is reported packet by packet, before the end of the stream. -/
def packetReport? : ParserItem → Option ParserReport
  | .report (.sessionStart sessionId source destination sourcePort destinationPort) =>
      some (.sessionStart sessionId source destination sourcePort destinationPort)
  | .report (.sessionEnd sessionId duration) => some (.sessionEnd sessionId duration)
  | .report (.packetDropped (.outOfOrderRetransmit sequence)) =>
      some (.packetDropped (.outOfOrderRetransmit sequence))
  | _ => none

/-- The identifier of an event reported emitted. -/
def emitted? : ParserItem → Option Uuid
  | .report (.eventEmitted _ eventId) => some eventId
  | _ => none

def reportedBytes (items : List ParserItem) : Nat :=
  ((items.filterMap report?).map ParserReport.bytes).sum

theorem reportedBytes_append (first second : List ParserItem) :
    reportedBytes (first ++ second) = reportedBytes first + reportedBytes second := by
  rw [reportedBytes, List.filterMap_append, List.map_append, List.sum_append]
  rfl

theorem reportedBytes_reports (reports : List ParserReport) :
    reportedBytes (reports.map report) = (reports.map ParserReport.bytes).sum := by
  have all : (reports.map report).filterMap report? = reports := by
    rw [List.filterMap_map]
    exact List.filterMap_some
  rw [reportedBytes, all]

/-- The events yielded are those reported emitted. -/
def Emits (items : List ParserItem) : Prop :=
  items.filterMap emitted? = (items.filterMap event?).map SipRegistrationEvent.eventId

theorem Emits.append {first second : List ParserItem} (here : Emits first) (later : Emits second) :
    Emits (first ++ second) := by
  rw [Emits, List.filterMap_append, List.filterMap_append, List.map_append, here, later]

/-- Reports among which no event is emitted. -/
theorem emits_reports {reports : List ParserReport}
    (silent : ∀ made ∈ reports, emitted? (.report made) = none) :
    Emits (reports.map report) := by
  have none : reports.filterMap (emitted? ∘ report) = [] := List.filterMap_eq_nil_iff.mpr silent
  rw [Emits, List.filterMap_eq_nil_iff.mpr event?_map_report, List.filterMap_map, none]
  rfl

end ParserItem

open ParserItem (packetReport? emitted? reportedBytes Emits reportedBytes_append
  reportedBytes_reports emits_reports)

theorem ParserItem.packetReport?_eq_some {made seen : ParserReport}
    (kept : packetReport? (.report made) = some seen) : seen = made := by
  rcases made with _ | _ | drop | _ | _ | _
  · cases kept
    rfl
  · cases kept
    rfl
  · cases drop <;> cases kept
    rfl
  · cases kept
  · cases kept
  · cases kept

theorem ParserReport.retransmit?_packetReport (made : ParserReport)
    (other : packetReport? (.report made) = none) : made.retransmit? = none := by
  rcases made with _ | _ | drop | _ | _ | _
  · rfl
  · rfl
  · cases drop with
    | outOfOrderRetransmit sequence => cases other
    | incompleteReassembly segments bytes => rfl
    | incompleteMessage bytes observedAt => rfl
  · rfl
  · rfl
  · rfl

namespace TcpReassembler

/-- What is reported of the packets of a run. -/
def reportsIn (sessionId : SessionKey → Datetime → String) (state : State) :
    List TCPPacket → List ParserReport
  | [] => []
  | packet :: rest => reportsBefore sessionId state packet ++
      (reportsAfter sessionId (processPacket state packet).1 packet ++
        reportsIn sessionId (processPacket state packet).1 rest)

/-- The forms a packet's report can take. -/
inductive OfPacket : ParserReport → Prop
  | started (sessionId source destination : String) (sourcePort destinationPort : Nat) :
      OfPacket (.sessionStart sessionId source destination sourcePort destinationPort)
  | ended (sessionId : String) (duration : ℚ) : OfPacket (.sessionEnd sessionId duration)
  | retransmitted (sequence : Nat) : OfPacket (.packetDropped (.outOfOrderRetransmit sequence))

variable {sessionId : SessionKey → Datetime → String}

theorem reportsBefore_ofPacket {state : State} {packet : TCPPacket} {made : ParserReport}
    (member : made ∈ reportsBefore sessionId state packet) : OfPacket made := by
  rcases List.mem_append.mp member with here | here
  · rw [SessionTracker.startReports] at here
    split at here
    · obtain rfl := List.mem_singleton.mp here
      exact .started ..
    · cases here
  · split at here
    · obtain rfl := List.mem_singleton.mp here
      exact .retransmitted _
    · cases here

theorem reportsAfter_ofPacket {state : State} {packet : TCPPacket} {made : ParserReport}
    (member : made ∈ reportsAfter sessionId state packet) : OfPacket made := by
  rw [reportsAfter] at member
  split at member
  · rw [SessionTracker.endReports] at member
    split at member
    · cases member
    · obtain rfl := List.mem_singleton.mp member
      exact .ended _ _
  · cases member

theorem OfPacket.bytes {made : ParserReport} (ofPacket : OfPacket made) : made.bytes = 0 := by
  cases ofPacket <;> rfl

theorem OfPacket.emitted {made : ParserReport} (ofPacket : OfPacket made) :
    emitted? (.report made) = none := by
  cases ofPacket <;> rfl

theorem OfPacket.packetReport {made : ParserReport} (ofPacket : OfPacket made) :
    packetReport? (.report made) = some made := by
  cases ofPacket <;> rfl

/-- Each retransmission is reported as it arrives. -/
theorem retransmits_reportsIn (state : State) (packets : List TCPPacket) :
    (reportsIn sessionId state packets).filterMap ParserReport.retransmit? =
      (droppedIn state packets).refused.map TCPPacket.sequenceNumber := by
  induction packets generalizing state with
  | nil => rfl
  | cons packet rest ih =>
      have before : (reportsBefore sessionId state packet).filterMap ParserReport.retransmit? =
          (droppedBy (streamOf state (packetKey packet)) packet).refused.map
            TCPPacket.sequenceNumber := by
        have silent : (SessionTracker.startReports sessionId state (packetKey packet)
            packet.timestamp).filterMap ParserReport.retransmit? = [] := by
          rw [SessionTracker.startReports]
          split <;> rfl
        rw [reportsBefore, List.filterMap_append, silent, List.nil_append, droppedBy]
        split
        · rfl
        · split
          · rfl
          · split <;> rfl
      have behind : (reportsAfter sessionId (processPacket state packet).1 packet).filterMap
          ParserReport.retransmit? = [] := by
        rw [reportsAfter]
        split
        · rw [SessionTracker.endReports]
          split <;> rfl
        · rfl
      rw [reportsIn, List.filterMap_append, List.filterMap_append, before, behind, ih, droppedIn,
        List.nil_append, ← List.map_append]
      rfl

/-- The bytes of the packets, by where their segments end. -/
theorem payload_accounted (packets : List TCPPacket) :
    (packets.map fun packet => packet.payload.length).sum =
      (yielded (processPackets fresh packets).2.flatten).length +
        (yielded (held (processPackets fresh packets).1)).length +
        ((droppedIn fresh packets).refused.map fun packet => packet.payload.length).sum +
        ((droppedIn fresh packets).replaced.map fun chunk => chunk.data.length).sum := by
  have sizes : ∀ chunks : List TimestampedChunk,
      (yielded chunks).length = (chunks.map fun chunk => chunk.data.length).sum := fun chunks =>
    List.length_flatMap
  have lengths : ∀ packets : List TCPPacket,
      (packets.map segment).map (fun chunk => chunk.data.length) =
        packets.map fun packet => packet.payload.length := fun _ => List.map_map
  have blank : ((droppedIn fresh packets).blank.map fun packet => packet.payload.length).sum = 0 :=
    List.sum_eq_zero fun length member => by
      obtain ⟨packet, here, rfl⟩ := List.mem_map.mp member
      exact congrArg List.length (droppedIn_blank fresh packets packet here)
  have total := ((segments_accounted fresh packets).map fun chunk => chunk.data.length).sum_eq
  have none : held fresh = [] := rfl
  rw [none, List.append_nil, lengths, Dropped.chunks, List.map_append, List.map_append,
    List.map_append, List.map_append, lengths, lengths, List.sum_append, List.sum_append,
    List.sum_append, List.sum_append, blank] at total
  rw [sizes, sizes]
  omega

end TcpReassembler

namespace ParserPipeline.Observed

open TcpReassembler (OfPacket yielded)
open MessageDecoder (Marked)

/-- What some reports of packets add to a run. -/
structure PacketReports (reports : List ParserReport) : Prop where
  bytes : reportedBytes (reports.map ParserItem.report) = 0
  emits : Emits (reports.map ParserItem.report)
  packets : (reports.map ParserItem.report).filterMap packetReport? = reports

theorem packetReports {reports : List ParserReport} (ofPacket : ∀ made ∈ reports, OfPacket made) :
    PacketReports reports where
  bytes := by
    rw [reportedBytes_reports]
    exact List.sum_eq_zero fun size member => by
      obtain ⟨made, here, rfl⟩ := List.mem_map.mp member
      exact (ofPacket made here).bytes
  emits := emits_reports fun made member => (ofPacket made member).emitted
  packets := by
    rw [List.filterMap_map]
    refine (List.filterMap_congr fun made member => ?_).trans List.filterMap_some
    exact (ofPacket made member).packetReport

variable {ω : Type} {rules : ParserRules ω} {normaliser : EventNormaliser} {traceId : Option Uuid}

/-- What the messages of a run add to it. -/
structure MessageItems (size : Nat) (items : List ParserItem) : Prop where
  bytes : reportedBytes items = size
  emits : Emits items
  packets : items.filterMap packetReport? = []

theorem MessageItems.append {first second : Nat} {items later : List ParserItem}
    (here : MessageItems first items) (there : MessageItems second later) :
    MessageItems (first + second) (items ++ later) where
  bytes := by rw [reportedBytes_append, here.bytes, there.bytes]
  emits := here.emits.append there.emits
  packets := by rw [List.filterMap_append, here.packets, there.packets, List.nil_append]

theorem extractReports_cases (cases : CaseMaps) (data : Bytes) :
    extractReports cases data = [] ∨
      ∃ errorType, extractReports cases data = [.parseError errorType] := by
  rw [extractReports]
  split
  · exact Or.inl rfl
  · rw [EventExtractor.reports]
    split
    · exact Or.inl rfl
    · split
      · exact Or.inr ⟨_, rfl⟩
      · split
        · exact Or.inr ⟨_, rfl⟩
        · exact Or.inl rfl

theorem messageReports_items (message : TimestampedMessage) (world : ω) :
    MessageItems message.data.length
      ((messageReports rules message world).map ParserItem.report) := by
  rw [messageReports]
  rcases extractReports_cases rules.cases message.data with none | ⟨errorType, one⟩
  · rw [none]
    exact ⟨Nat.add_zero _, rfl, rfl⟩
  · rw [one]
    exact ⟨Nat.add_zero _, rfl, rfl⟩

/-- A message's event, with the report that it is emitted. -/
theorem event_items (event : SipRegistrationEvent) :
    MessageItems 0 [.report (.eventEmitted "sip.registration" event.eventId), .event event] :=
  ⟨rfl, rfl, rfl⟩

theorem parseMessages_items {messages : List TimestampedMessage} {world after : ω}
    (returned : (parseMessages rules normaliser traceId messages world).ended = .ok after) :
    MessageItems (messages.flatMap TimestampedMessage.data).length
      (parseMessages rules normaliser traceId messages world).yielded := by
  induction messages generalizing world with
  | nil => exact ⟨rfl, rfl, rfl⟩
  | cons message rest ih =>
      have reported : MessageItems message.data.length
          ((messageReports rules message world).map ParserItem.report) :=
        messageReports_items message world
      rw [List.flatMap_cons, List.length_append]
      rcases parsed : extracted? rules.cases message.data with _ | extracted
      · rw [parseMessages_skip parsed] at returned ⊢
        exact reported.append (ih returned)
      · rcases normalised : EventNormaliser.normalise rules normaliser traceId extracted
          message.timestamp (rules.now world).2 with ⟨reason | event, between⟩
        · rw [parseMessages_raise parsed normalised] at returned
          cases returned
        · rw [parseMessages_yield parsed normalised] at returned ⊢
          have both := (event_items event).append (ih returned)
          rw [Nat.zero_add] at both
          exact reported.append both

/-- The chunks of a packet, up to what the decoder still holds. -/
theorem parseChunks_items {chunks : List TimestampedChunk} {decoder left : MessageDecoder}
    {times : List Datetime} {world after : ω} (marked : Marked decoder times)
    (returned : (parseChunks rules normaliser traceId chunks decoder world).ended =
      .ok (left, after)) :
    ∃ size, MessageItems size (parseChunks rules normaliser traceId chunks decoder world).yielded ∧
      size + left.buffer.length = decoder.buffer.length + (yielded chunks).length ∧
      ∃ later, Marked left later := by
  induction chunks generalizing decoder times world with
  | nil =>
      cases returned
      exact ⟨0, ⟨rfl, rfl, rfl⟩, Nat.add_comm 0 _, times, marked⟩
  | cons chunk rest ih =>
      obtain ⟨messages, between, looped, frames⟩ :=
        MessageDecoder.feedLoop_frames _ _ _ (marked.accept chunk) (Nat.le_refl _)
      have fed : decoder.feed chunk = ⟨messages, .ok between⟩ := looped
      have split := congrArg List.length frames.split.flatten_append
      rw [List.length_append, MessageDecoder.accept_buffer, List.length_append,
        ← List.flatMap_def] at split
      rw [parseChunks] at returned ⊢
      obtain ⟨⟨reached, middle⟩, framed, tailed, items⟩ := Generated.bind_ok returned
      rw [items]
      rw [parseFramed, fed] at framed ⊢
      obtain ⟨parsed, here, closed, framedItems⟩ := Generated.bind_ok framed
      cases closed
      obtain ⟨size, later, sum, stays⟩ := ih frames.marked tailed
      refine ⟨(messages.flatMap TimestampedMessage.data).length + size, ?_, ?_, stays⟩
      · have parsedItems := parseMessages_items here
        rw [framedItems]
        show MessageItems _ ((_ ++ []) ++ _)
        rw [List.append_nil]
        exact parsedItems.append later
      · rw [TcpReassembler.yielded_cons, List.length_append]
        omega

/-- A run over packets: what it reports, and what it leaves behind. -/
structure PacketItems (sessionId : SessionKey → Datetime → String) (pipeline final : ParserPipeline)
    (packets : List TCPPacket) (items : List ParserItem) : Prop where
  reassembler : final.reassembler = (TcpReassembler.processPackets pipeline.reassembler packets).1
  marked : ∃ times, Marked final.decoder times
  bytes : reportedBytes items + final.decoder.buffer.length = pipeline.decoder.buffer.length +
    (yielded (TcpReassembler.processPackets pipeline.reassembler packets).2.flatten).length
  emits : Emits items
  packets : items.filterMap packetReport? =
    TcpReassembler.reportsIn sessionId pipeline.reassembler packets

theorem parsePackets_items {sessionId : SessionKey → Datetime → String} {packets : List TCPPacket}
    {pipeline final : ParserPipeline} {times : List Datetime} {world after : ω}
    (marked : Marked pipeline.decoder times)
    (returned : (parsePackets sessionId rules traceId packets pipeline world).ended =
      .ok (final, after)) :
    PacketItems sessionId pipeline final packets
      (parsePackets sessionId rules traceId packets pipeline world).yielded := by
  induction packets generalizing pipeline times world with
  | nil =>
      cases returned
      exact ⟨rfl, ⟨times, marked⟩, Nat.add_comm .., rfl, rfl⟩
  | cons packet rest ih =>
      have before : PacketReports (TcpReassembler.reportsBefore sessionId pipeline.reassembler
          packet) := packetReports fun _ member => TcpReassembler.reportsBefore_ofPacket member
      have behind : PacketReports (TcpReassembler.reportsAfter sessionId
          (TcpReassembler.processPacket pipeline.reassembler packet).1 packet) :=
        packetReports fun _ member => TcpReassembler.reportsAfter_ofPacket member
      rw [parsePackets] at returned ⊢
      obtain ⟨_, _, returned, firstItems⟩ := Generated.bind_ok returned
      obtain ⟨⟨left, middle⟩, parsed, returned, chunkItems⟩ := Generated.bind_ok returned
      obtain ⟨size, items, sum, later, stays⟩ := parseChunks_items marked parsed
      obtain ⟨_, _, returned, lastItems⟩ := Generated.bind_ok returned
      have rest := ih stays returned
      rw [firstItems, chunkItems, lastItems]
      refine ⟨rest.reassembler, rest.marked, ?_, before.emits.append (items.emits.append
        (behind.emits.append rest.emits)), ?_⟩
      · have restBytes := rest.bytes
        rw [TcpReassembler.processPackets]
        rw [reportedBytes_append, reportedBytes_append, reportedBytes_append, items.bytes,
          List.flatten_cons, TcpReassembler.yielded_append, List.length_append]
        have none := before.bytes
        have alsoNone := behind.bytes
        simp only [Generated.emit] at restBytes ⊢
        omega
      · rw [List.filterMap_append, List.filterMap_append, List.filterMap_append, items.packets,
          rest.packets]
        show List.filterMap packetReport? (List.map _ _) ++
          ([] ++ (List.filterMap packetReport? (List.map _ _) ++ _)) = _
        rw [before.packets, behind.packets, List.nil_append, TcpReassembler.reportsIn]

/-- What the end of the stream adds to a run. -/
theorem discardIncompleteBuffers_items {pipeline final : ParserPipeline} {times : List Datetime}
    (marked : Marked pipeline.decoder times)
    (returned : (discardIncompleteBuffers pipeline).ended = .ok final) :
    final.reassembler = (TcpReassembler.discardIncomplete pipeline.reassembler).1 ∧
      MessageItems ((yielded (TcpReassembler.held pipeline.reassembler)).length +
        pipeline.decoder.buffer.length) (discardIncompleteBuffers pipeline).yielded := by
  obtain ⟨remainder, flushed, bytes, _⟩ := marked.flush
  have segments : MessageItems (yielded (TcpReassembler.held pipeline.reassembler)).length
      ((segmentReports pipeline.reassembler).map ParserItem.report) := by
    rw [segmentReports, TcpReassembler.discardIncomplete_counts]
    by_cases none : TcpReassembler.held pipeline.reassembler = []
    · rw [none]
      exact ⟨rfl, rfl, rfl⟩
    · rw [if_neg fun count => none (List.eq_nil_of_length_eq_zero count)]
      exact ⟨Nat.add_zero _, rfl, rfl⟩
  have left : MessageItems pipeline.decoder.buffer.length
      ((remainderReports remainder).map ParserItem.report) := by
    rw [← bytes]
    cases remainder with
    | none => exact ⟨rfl, rfl, rfl⟩
    | some message =>
        refine ⟨?_, rfl, rfl⟩
        rw [Option.toList_some, List.flatMap_singleton]
        exact Nat.add_zero _
  have ran : discardIncompleteBuffers pipeline =
      (Generated.emit ((segmentReports pipeline.reassembler).map ParserItem.report)).bind fun _ =>
        (Generated.emit ((remainderReports remainder).map ParserItem.report)).bind fun _ =>
          .done { pipeline with
            reassembler := (TcpReassembler.discardIncomplete pipeline.reassembler).1
            decoder := {} } := by
    rw [discardIncompleteBuffers, flushed]
  rw [ran] at returned ⊢
  cases returned
  refine ⟨rfl, segments.append ?_⟩
  show MessageItems _ (_ ++ [])
  rw [List.append_nil]
  exact left

/-- A whole run over packets, from a pipeline nothing has gone through. -/
structure StreamItems (sessionId : SessionKey → Datetime → String) (final : ParserPipeline)
    (packets : List TCPPacket) (items : List ParserItem) : Prop where
  reassembler : final.reassembler = (TcpReassembler.discardIncomplete
    (TcpReassembler.processPackets TcpReassembler.fresh packets).1).1
  bytes : reportedBytes items =
    (yielded (TcpReassembler.processPackets TcpReassembler.fresh packets).2.flatten).length +
      (yielded (TcpReassembler.held
        (TcpReassembler.processPackets TcpReassembler.fresh packets).1)).length
  emits : Emits items
  packets : items.filterMap packetReport? =
    TcpReassembler.reportsIn sessionId TcpReassembler.fresh packets

theorem create_fresh {storeId : Str} {pipeline : ParserPipeline}
    (created : create storeId = .ok pipeline) :
    pipeline.reassembler = TcpReassembler.fresh ∧ pipeline.decoder = {} := by
  rw [create] at created
  cases checked : EventNormaliser.create storeId with
  | error reason =>
      rw [checked] at created
      cases created
  | ok normaliser =>
      rw [checked] at created
      cases created
      exact ⟨rfl, rfl⟩

theorem parseStream_items {sessionId : SessionKey → Datetime → String} {storeId : Str}
    {packets : List TCPPacket} {pipeline final : ParserPipeline} {world after : ω}
    (created : create storeId = .ok pipeline)
    (returned : (parseStream sessionId rules traceId packets pipeline world).ended =
      .ok (final, after)) :
    StreamItems sessionId final packets
      (parseStream sessionId rules traceId packets pipeline world).yielded := by
  obtain ⟨fresh, blank⟩ := create_fresh created
  have unmarked : Marked pipeline.decoder [] := blank.symm ▸ MessageDecoder.marked_empty
  obtain ⟨⟨parsed, middle⟩, ran, returned, items⟩ := Generated.bind_ok returned
  obtain ⟨emptied, discarded, closed, lastItems⟩ := Generated.bind_ok returned
  cases closed
  have run := parsePackets_items unmarked ran
  obtain ⟨times, marked⟩ := run.marked
  obtain ⟨cleared, last⟩ := discardIncompleteBuffers_items marked discarded
  have reassembler := run.reassembler
  have bytes := run.bytes
  have reports := run.packets
  rw [fresh] at reassembler bytes reports
  rw [blank, List.length_nil, Nat.zero_add] at bytes
  have ends : (parseStream sessionId rules traceId packets pipeline world).yielded =
      (parsePackets sessionId rules traceId packets pipeline world).yielded ++
        (discardIncompleteBuffers parsed).yielded :=
    (items.trans (congrArg _ lastItems)).trans (congrArg _ (List.append_nil _))
  rw [ends]
  refine ⟨reassembler ▸ cleared, ?_, run.emits.append last.emits, ?_⟩
  · rw [reportedBytes_append, last.bytes, reassembler, ← bytes]
    omega
  · rw [List.filterMap_append, reports, last.packets, List.append_nil]

/-- Reports that are only made of packets are those of the packets. -/
theorem StreamItems.read {γ : Type} {sessionId : SessionKey → Datetime → String}
    {final : ParserPipeline} {packets : List TCPPacket} {items : List ParserItem}
    (stream : StreamItems sessionId final packets items) {read : ParserReport → Option γ}
    (only : ∀ made, packetReport? (.report made) = none → read made = none) :
    (items.filterMap ParserItem.report?).filterMap read =
      (TcpReassembler.reportsIn sessionId TcpReassembler.fresh packets).filterMap read := by
  rw [← stream.packets, List.filterMap_filterMap, List.filterMap_filterMap]
  refine List.filterMap_congr fun item _ => ?_
  cases item with
  | event _ => rfl
  | report made =>
      show read made = (packetReport? (.report made)).bind read
      cases kept : packetReport? (.report made) with
      | none => exact only made kept
      | some seen => exact congrArg read (ParserItem.packetReport?_eq_some kept).symm

/-- The account of a run: every byte of every packet is in a message reported framed, in what is
reported left over at the end of the stream, in a retransmission, each of which is reported by its
number, or in a segment that a later one of its number replaced in the buffer, of which nothing is
reported. And the events yielded are those reported emitted. -/
structure Accounted (packets : List TCPPacket) (items : List ParserItem) : Prop where
  bytes : (packets.map fun packet => packet.payload.length).sum =
    ((items.filterMap ParserItem.report?).map ParserReport.bytes).sum +
      ((TcpReassembler.droppedIn TcpReassembler.fresh packets).refused.map fun packet =>
        packet.payload.length).sum +
      ((TcpReassembler.droppedIn TcpReassembler.fresh packets).replaced.map fun chunk =>
        chunk.data.length).sum
  retransmits : (items.filterMap ParserItem.report?).filterMap ParserReport.retransmit? =
    (TcpReassembler.droppedIn TcpReassembler.fresh packets).refused.map TCPPacket.sequenceNumber
  emitted : items.filterMap emitted? =
    (items.filterMap ParserItem.event?).map SipRegistrationEvent.eventId

theorem bytes_accounted {sessionId : SessionKey → Datetime → String} {storeId : Str}
    {packets : List TCPPacket} {pipeline final : ParserPipeline} {world after : ω}
    (created : create storeId = .ok pipeline)
    (returned : (parseStream sessionId rules traceId packets pipeline world).ended =
      .ok (final, after)) :
    Accounted packets (parseStream sessionId rules traceId packets pipeline world).yielded := by
  have stream := parseStream_items created returned
  refine ⟨?_, ?_, stream.emits⟩
  · have bytes := stream.bytes
    have accounted := TcpReassembler.payload_accounted packets
    rw [reportedBytes] at bytes
    omega
  · rw [stream.read ParserReport.retransmit?_packetReport, TcpReassembler.retransmits_reportsIn]

section Sample

/-- A REGISTER in two packets, the first of which is sent again, and two packets of one number
behind a gap that stays. -/
def samplePackets : List TCPPacket :=
  let register := sampleRegister "SIP/2.0/UDP 10.0.0.2:5060" "h1"
  [TcpReassembler.samplePacket 1 (register.take 30), TcpReassembler.samplePacket 500 [65],
    TcpReassembler.samplePacket 1 (register.take 30), TcpReassembler.samplePacket 500 [66],
    { TcpReassembler.samplePacket 31 (register.drop 30) with fin := true }]

def sampleRun (pipeline : ParserPipeline) : Generated Raised ParserItem (ParserPipeline × Unit) :=
  parseStream (fun _ _ => "session") sampleRules none samplePackets pipeline ()

theorem create_sample : create "store-1".toList = .ok samplePipeline := by
  rw [create, EventNormaliser.create, if_neg (by decide), dif_pos (by decide)]
  rfl

theorem sampleRun_returns : (sampleRun samplePipeline).ended.toBool = true := by
  decide +kernel

theorem bytes_accounted_sample : Accounted samplePackets (sampleRun samplePipeline).yielded := by
  rcases returned : (sampleRun samplePipeline).ended with reason | ⟨final, after⟩
  · have returns := sampleRun_returns
    rw [returned] at returns
    cases returns
  · exact bytes_accounted create_sample returned

end Sample

end ParserPipeline.Observed

end SignalForge
