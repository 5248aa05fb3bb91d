import Mathlib.Data.List.Induction
import SignalForge.Interleaving
import SignalForge.ParserPipelineRobustness
import SignalForge.TcpReassemblerStreams

/-! Two sessions through one pipeline. Reassembly keeps them apart; framing keeps one buffer
for both. -/

set_option autoImplicit false

namespace SignalForge.ParserPipeline

open EventNormaliser MessageDecoder TcpReassembler

/-- The messages framed from packets, and the decoder left. -/
def framing (packets : List TCPPacket) : Generated Raised TimestampedMessage MessageDecoder :=
  feedAll {} (handedOver fresh packets)

/-- The bytes of an incomplete message packets leave in the decoder. -/
def pendingAfter (packets : List TCPPacket) : Bytes :=
  match (framing packets).ended with
  | .error _ => []
  | .ok decoder => decoder.buffer

/-- No packet hands bytes over while a message of another session is incomplete. -/
def FramesApart (packets : List TCPPacket) : Prop :=
  ∀ before packet after, packets = before ++ packet :: after →
    (processPacket (processPackets fresh before).1 packet).2 ≠ [] →
      pendingAfter (before.filter (packetKey · ≠ packetKey packet)) = []

theorem framing_returns (packets : List TCPPacket) :
    ∃ messages left times, framing packets = ⟨messages, .ok left⟩ ∧ Marked left times :=
  marked_empty.feedAll (handedOver fresh packets)

theorem framing_concat (packets : List TCPPacket) (packet : TCPPacket) :
    framing (packets ++ [packet]) = (framing packets).bind fun decoder =>
      feedAll decoder (processPacket (processPackets fresh packets).1 packet).2 := by
  simp only [framing, handedOver, processPackets_append, processPackets, List.flatten_append,
    List.flatten_cons, List.flatten_nil, List.append_nil, feedAll_append]

/-- A packet hands over the same chunks when its session is alone. -/
theorem processPacket_alone (packets : List TCPPacket) (packet : TCPPacket) :
    (processPacket (processPackets fresh (packets.filter
        (packetKey · = packetKey packet))).1 packet).2 =
      (processPacket (processPackets fresh packets).1 packet).2 := by
  rw [processPacket_chunks, processPacket_chunks, processPackets_stream, processPackets_stream,
    List.filter_filter]
  simp only [Bool.and_self]

/-- A session's framing alone, the other's alone and both together: what the decoder holds
is what the one of them with a message pending would hold. -/
structure Apart (own other packets : List TCPPacket) : Prop where
  merged : Interleaves (framing own).yielded (framing other).yielded (framing packets).yielded
  pending : (framing packets).ended = (framing own).ended ∧ pendingAfter other = [] ∨
    (framing packets).ended = (framing other).ended ∧ pendingAfter own = []

theorem Apart.symm {own other packets : List TCPPacket} (apart : Apart own other packets) :
    Apart other own packets := ⟨apart.merged.symm, apart.pending.symm⟩

theorem Apart.congr {own other packets moreOwn more : List TCPPacket}
    (together : framing more = framing packets) (alone : framing moreOwn = framing own) :
    Apart moreOwn other more ↔ Apart own other packets := by
  have samePending : pendingAfter moreOwn = pendingAfter own := by
    rw [pendingAfter, pendingAfter, alone]
  constructor
  · rintro ⟨merged, pending⟩
    rw [together, alone] at merged pending
    exact ⟨merged, by rwa [samePending] at pending⟩
  · rintro ⟨merged, pending⟩
    refine ⟨by rwa [together, alone], ?_⟩
    rwa [together, alone, samePending]

/-- With nothing pending the decoder is a fresh one. -/
theorem ended_of_pendingAfter {packets : List TCPPacket} (nothing : pendingAfter packets = []) :
    (framing packets).ended = .ok {} := by
  obtain ⟨messages, left, times, framed, marked⟩ := framing_returns packets
  rw [pendingAfter, framed] at nothing
  rw [framed, marked.eq_fresh nothing]

/-- A packet of one session keeps the two apart. -/
theorem Apart.step {own other packets : List TCPPacket} {packet : TCPPacket}
    (apart : Apart own other packets)
    (sameChunks : (processPacket (processPackets fresh own).1 packet).2 =
      (processPacket (processPackets fresh packets).1 packet).2)
    (free : (processPacket (processPackets fresh packets).1 packet).2 ≠ [] →
      pendingAfter other = []) :
    Apart (own ++ [packet]) other (packets ++ [packet]) := by
  have together := framing_concat packets packet
  have alone := framing_concat own packet
  rw [sameChunks] at alone
  generalize (processPacket (processPackets fresh packets).1 packet).2 = chunks at *
  by_cases none : chunks = []
  · have unfed : ∀ decoder : MessageDecoder, feedAll decoder chunks = .done decoder := by
      intro decoder
      rw [none]
      rfl
    simp only [unfed, Generated.bind_done] at together alone
    rw [Apart.congr together alone]
    exact apart
  · have otherFree := free none
    have same : (framing packets).ended = (framing own).ended := by
      rcases apart.pending with ⟨same, _⟩ | ⟨same, ownFree⟩
      · exact same
      · rw [same, ended_of_pendingAfter otherFree, ended_of_pendingAfter ownFree]
    obtain ⟨messages, left, times, framed, marked⟩ := framing_returns own
    have ended : (framing own).ended = .ok left := by rw [framed]
    obtain ⟨more, after, _, fed, _⟩ := marked.feedAll chunks
    rw [Generated.bind_of_ok ended, fed] at alone
    rw [Generated.bind_of_ok (same.trans ended), fed] at together
    refine ⟨?_, Or.inl ⟨by rw [together, alone], otherFree⟩⟩
    rw [together, alone]
    have merged := apart.merged.append (Interleaves.leftOnly more)
    rwa [List.append_nil] at merged

/-- The packets of the other of two sessions. -/
theorem filter_other {own other : SessionKey} (different : own ≠ other) {packets : List TCPPacket}
    (ofEither : ∀ packet ∈ packets, packetKey packet = own ∨ packetKey packet = other) :
    packets.filter (packetKey · ≠ own) = packets.filter (packetKey · = other) := by
  apply List.filter_congr
  intro packet member
  rw [decide_eq_decide]
  constructor
  · exact (ofEither packet member).resolve_left
  · intro same
    rw [same]
    exact different.symm

/-- The step lemma, for the session the packet belongs to. -/
theorem Apart.packet {own other : SessionKey} (different : own ≠ other) {packets : List TCPPacket}
    {packet : TCPPacket} (ofOwn : packetKey packet = own)
    (ofEither : ∀ earlier ∈ packets, packetKey earlier = own ∨ packetKey earlier = other)
    (framesApart : FramesApart (packets ++ [packet]))
    (apart : Apart (packets.filter (packetKey · = own)) (packets.filter (packetKey · = other))
      packets) :
    Apart ((packets ++ [packet]).filter (packetKey · = own))
      ((packets ++ [packet]).filter (packetKey · = other)) (packets ++ [packet]) := by
  have free := framesApart packets packet [] rfl
  rw [ofOwn, filter_other different ofEither] at free
  have sameChunks := processPacket_alone packets packet
  rw [ofOwn] at sameChunks
  have extended : (packets ++ [packet]).filter (packetKey · = own) =
      packets.filter (packetKey · = own) ++ [packet] := by
    rw [List.filter_append, List.filter_cons_of_pos (by simpa using ofOwn), List.filter_nil]
  have unchanged : (packets ++ [packet]).filter (packetKey · = other) =
      packets.filter (packetKey · = other) := by
    rw [List.filter_append, List.filter_cons_of_neg, List.filter_nil, List.append_nil]
    rw [ofOwn, decide_eq_true_eq]
    exact different
  rw [extended, unchanged]
  exact apart.step sameChunks free

/-- The run lemma: two sessions whose framing never overlaps stay apart. -/
theorem apart_of_framesApart {keyA keyB : SessionKey} (different : keyA ≠ keyB)
    (packets : List TCPPacket) (ofEither : ∀ packet ∈ packets, packetKey packet = keyA ∨
      packetKey packet = keyB) (framesApart : FramesApart packets) :
    Apart (packets.filter (packetKey · = keyA)) (packets.filter (packetKey · = keyB)) packets := by
  induction packets using List.reverseRecOn with
  | nil => exact ⟨.nil, Or.inl ⟨rfl, rfl⟩⟩
  | append_singleton packets packet ih =>
      have before : FramesApart packets := by
        intro earlier between later located
        refine framesApart earlier between (later ++ [packet]) ?_
        rw [located, List.append_assoc, List.cons_append]
      have ofEarlier : ∀ earlier ∈ packets, packetKey earlier = keyA ∨ packetKey earlier = keyB :=
        fun earlier member => ofEither earlier (List.mem_append_left _ member)
      have apart := ih ofEarlier before
      rcases ofEither packet (List.mem_append_right _ (List.mem_singleton_self _)) with ofA | ofB
      · exact apart.packet different ofA ofEarlier framesApart
      · exact (apart.symm.packet different.symm ofB (fun earlier member =>
          (ofEarlier earlier member).symm) framesApart).symm

section

variable {ω : Type} {rules : ParserRules ω} {normaliser : EventNormaliser} {traceId : Option Uuid}

/-- What the event of a message says, where it has one. -/
def observed? (rules : ParserRules ω) (normaliser : EventNormaliser)
    (message : TimestampedMessage) : Option (Uuid × Datetime × SipRegistrationPayload) :=
  (extracted? rules.cases message.data).bind fun extracted =>
    (observe rules normaliser extracted message.timestamp).toOption

/-- Parsing that does not raise says of each message what the message alone determines. -/
theorem parseMessages_observed (messages : List TimestampedMessage) (world after : ω)
    (returned : (parseMessages rules normaliser traceId messages world).ended = .ok after) :
    (parseMessages rules normaliser traceId messages world).yielded.map observation =
      messages.filterMap (observed? rules normaliser) := by
  induction messages generalizing world with
  | nil => rfl
  | cons message rest ih =>
      cases parsed : extracted? rules.cases message.data with
      | none =>
          rw [parseMessages_skip parsed] at returned ⊢
          rw [List.filterMap_cons_none (by rw [observed?, parsed]; rfl)]
          exact ih world returned
      | some extracted =>
          rcases normalised : normalise rules normaliser traceId extracted message.timestamp world
            with ⟨reason | event, between⟩
          · rw [parseMessages_raise parsed normalised] at returned
            cases returned
          · rw [parseMessages_yield parsed normalised] at returned ⊢
            obtain ⟨_, _, observes, _⟩ := normalise_ok normalised
            have here : observed? rules normaliser message = some (observation event) := by
              rw [observed?, parsed, Option.bind_some, observes]
              rfl
            rw [List.filterMap_cons_some here, ← ih between returned]
            rfl

/-- Every REGISTER among the messages is acceptable at the reading of the clock its event gets. -/
def AcceptableInTurn (rules : ParserRules ω) (traceId : Option Uuid)
    (messages : List TimestampedMessage) (world : ω) : Prop :=
  ∀ place registration, (registrations rules.cases messages)[place]? = some registration →
    Acceptable rules registration (reading rules traceId world place)

/-- A run of a fresh pipeline over acceptable messages. -/
theorem parseStream_observed (packets : List TCPPacket) (world : ω)
    (acceptable : AcceptableInTurn rules traceId (framing packets).yielded world) :
    (∃ final, (parseStream rules traceId packets { normaliser := normaliser } world).ended =
      .ok final) ∧
    (parseStream rules traceId packets { normaliser := normaliser } world).yielded.map
      observation = (framing packets).yielded.filterMap (observed? rules normaliser) := by
  have flattened : parseStream rules traceId packets { normaliser := normaliser } world = _ :=
    parseStream_eq packets ⟨[], marked_empty⟩ world
  have framed : framedMessages { normaliser := normaliser } packets = (framing packets).yielded :=
    rfl
  rw [framed] at flattened
  obtain ⟨after, parsed⟩ : ∃ after, (parseMessages rules normaliser traceId
      (framing packets).yielded world).ended = .ok after :=
    (parseMessages_returns_iff _ world).mpr acceptable
  rw [Generated.bind_of_ok parsed] at flattened
  rw [flattened, ← parseMessages_observed _ _ _ parsed]
  exact ⟨⟨_, rfl⟩, congrArg (List.map observation) (List.append_nil _)⟩

/-- Where no packet hands bytes over while a message of the other session is incomplete, and the
normaliser accepts every REGISTER when a run comes to it, the events are an interleaving of those
each session yields alone. -/
theorem parseStream_isolates (rules : ParserRules ω) (normaliser : EventNormaliser)
    (traceId : Option Uuid) (keyA keyB : SessionKey) (different : keyA ≠ keyB)
    (packetsA packetsB packets : List TCPPacket)
    (ofA : ∀ packet ∈ packetsA, packetKey packet = keyA)
    (ofB : ∀ packet ∈ packetsB, packetKey packet = keyB)
    (interleaved : Interleaves packetsA packetsB packets)
    (framesApart : FramesApart packets) (worldA worldB world : ω)
    (acceptableA : AcceptableInTurn rules traceId (framing packetsA).yielded worldA)
    (acceptableB : AcceptableInTurn rules traceId (framing packetsB).yielded worldB)
    (acceptable : AcceptableInTurn rules traceId (framing packets).yielded world) :
    (∃ final, (parseStream rules traceId packets { normaliser := normaliser } world).ended =
      .ok final) ∧
    Interleaves
      ((parseStream rules traceId packetsA { normaliser := normaliser } worldA).yielded.map
        observation)
      ((parseStream rules traceId packetsB { normaliser := normaliser } worldB).yielded.map
        observation)
      ((parseStream rules traceId packets { normaliser := normaliser } world).yielded.map
        observation) := by
  have aPackets : packets.filter (packetKey · = keyA) = packetsA := by
    apply interleaved.filter_eq
    · exact fun packet member => decide_eq_true (ofA packet member)
    · intro packet member
      rw [ofB packet member]
      exact decide_eq_false different.symm
  have bPackets : packets.filter (packetKey · = keyB) = packetsB := by
    apply interleaved.symm.filter_eq
    · exact fun packet member => decide_eq_true (ofB packet member)
    · intro packet member
      rw [ofA packet member]
      exact decide_eq_false different
  have ofEither : ∀ packet ∈ packets, packetKey packet = keyA ∨ packetKey packet = keyB := by
    intro packet member
    exact ((interleaved.mem_iff packet).mp member).imp (ofA packet) (ofB packet)
  have apart := apart_of_framesApart different packets ofEither framesApart
  rw [aPackets, bPackets] at apart
  obtain ⟨returns, events⟩ := parseStream_observed packets world acceptable
  refine ⟨returns, ?_⟩
  rw [events, (parseStream_observed packetsA worldA acceptableA).2,
    (parseStream_observed packetsB worldB acceptableB).2]
  exact apart.merged.filterMap _

end

/-- Two sample sessions, each of one REGISTER; the first is sent in two packets. -/
def sampleSession (srcPort : Nat) (sequenceNumber : Nat) (payload : Bytes) : TCPPacket :=
  { samplePacket sequenceNumber payload with srcPort := srcPort }

def firstRegister : Bytes := sampleRegister "SIP/2.0/UDP 10.0.0.2:5060" "h1"

def secondRegister : Bytes := sampleRegister "SIP/2.0/UDP 10.0.0.3:5060" "h2"

def firstHead : TCPPacket := sampleSession 1000 1 (firstRegister.take 30)

def firstTail : TCPPacket := sampleSession 1000 31 (firstRegister.drop 30)

def secondWhole : TCPPacket := sampleSession 2000 1 secondRegister

/-- Of messages whose REGISTERs all are sample ones, sent at the epoch. -/
theorem acceptableInTurn_sample {messages : List TimestampedMessage}
    (registered : ∀ registration ∈ registrations sampleRules.cases messages,
      registration ∈ [(sampleFields "10.0.0.2" "h1", Datetime.utc .epoch),
        (sampleFields "10.0.0.2" "h2", .utc .epoch), (sampleFields "10.0.0.3" "h2", .utc .epoch)]) :
    AcceptableInTurn sampleRules none messages () := by
  intro place registration listed
  have member := registered registration (List.mem_of_getElem? listed)
  simp only [List.mem_cons, List.not_mem_nil, or_false] at member
  rcases member with rfl | rfl | rfl
  · exact acceptable_sampleFields (by decide) (by decide)
  · exact acceptable_sampleFields (by decide) (by decide)
  · exact acceptable_sampleFields (by decide) (by decide)

/-- The second session's packet follows the first's last one. -/
theorem parseStream_isolates_in_turn :
    (∃ final, (parseStream sampleRules none [firstHead, firstTail, secondWhole]
      { normaliser := samplePipeline.normaliser } ()).ended = .ok final) ∧
    Interleaves
      ((parseStream sampleRules none [firstHead, firstTail]
        { normaliser := samplePipeline.normaliser } ()).yielded.map observation)
      ((parseStream sampleRules none [secondWhole]
        { normaliser := samplePipeline.normaliser } ()).yielded.map observation)
      ((parseStream sampleRules none [firstHead, firstTail, secondWhole]
        { normaliser := samplePipeline.normaliser } ()).yielded.map observation) := by
  refine parseStream_isolates sampleRules _ none (packetKey firstHead) (packetKey secondWhole)
    (by decide) _ _ _ (by decide) (by decide) (.left _ (.left _ (.right _ .nil))) ?_ () () ()
    (acceptableInTurn_sample (by decide +kernel)) (acceptableInTurn_sample (by decide +kernel))
    (acceptableInTurn_sample (by decide +kernel))
  rintro (_ | ⟨first, _ | ⟨second, _ | ⟨third, more⟩⟩⟩) packet after located _
  · cases located
    decide +kernel
  · cases located
    decide +kernel
  · cases located
    decide +kernel
  · have lengths := congrArg List.length located
    simp only [List.length_cons, List.length_append, List.length_nil] at lengths
    omega

/-- The second session's packet comes between the two of the first: the first session's event
is lost. -/
theorem interleaved_session_lost :
    Interleaves [firstHead, firstTail] [secondWhole] [firstHead, secondWhole, firstTail] ∧
    packetKey firstHead = packetKey firstTail ∧ packetKey firstHead ≠ packetKey secondWhole ∧
    (parseStream sampleRules none [firstHead, secondWhole, firstTail] samplePipeline
      ()).yielded.map (fun event => event.payload.deviceLabel) = ["h2".toList] ∧
    ¬ Interleaves
      ((parseStream sampleRules none [firstHead, firstTail] samplePipeline ()).yielded.map
        observation)
      ((parseStream sampleRules none [secondWhole] samplePipeline ()).yielded.map observation)
      ((parseStream sampleRules none [firstHead, secondWhole, firstTail] samplePipeline
        ()).yielded.map observation) := by
  refine ⟨.left _ (.right _ (.left _ .nil)), by decide, by decide, by decide +kernel, ?_⟩
  have counts : ((parseStream sampleRules none [firstHead, secondWhole, firstTail] samplePipeline
        ()).yielded.length,
      (parseStream sampleRules none [firstHead, firstTail] samplePipeline ()).yielded.length,
      (parseStream sampleRules none [secondWhole] samplePipeline ()).yielded.length) = (1, 1, 1) := by
    decide +kernel
  simp only [Prod.mk.injEq] at counts
  intro merged
  have lengths := merged.length_eq
  simp only [List.length_map, counts] at lengths
  omega

end SignalForge.ParserPipeline
