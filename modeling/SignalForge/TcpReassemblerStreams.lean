import SignalForge.TcpReassembler

/-! What one packet does to the session table, and the termination of the flush loop. -/

set_option autoImplicit false

namespace SignalForge.TcpReassembler

open SessionTracker

theorem flushStep_eq_none (session : StreamState) :
    flushStep session = none ↔
      session.bufferedSegments.get? session.expectedSequence = none := by
  simp only [flushStep, Option.map_eq_none_iff]

theorem flushStep_eq_some {session next : StreamState} {chunk : TimestampedChunk}
    (popped : flushStep session = some (chunk, next)) :
    session.bufferedSegments.get? session.expectedSequence = some chunk ∧
      next.bufferedSegments = session.bufferedSegments.erase session.expectedSequence ∧
      next.expectedSequence = session.expectedSequence + chunk.data.length := by
  simp only [flushStep, Option.map_eq_some_iff, Prod.mk.injEq] at popped
  obtain ⟨found, held, rfl, rfl⟩ := popped
  exact ⟨held, rfl, rfl⟩

theorem flushStep_shrinks {session next : StreamState} {chunk : TimestampedChunk}
    (popped : flushStep session = some (chunk, next)) :
    next.bufferedSegments.length < session.bufferedSegments.length := by
  obtain ⟨held, erased, _⟩ := flushStep_eq_some popped
  rw [erased]
  exact session.bufferedSegments.length_erase_lt _ (by rw [held]; rfl)

/-- With a turn for every buffered segment the loop ends at its own guard. -/
theorem flushLoop_done (turns : Nat) (session : StreamState)
    (enough : session.bufferedSegments.length ≤ turns) :
    flushStep (flushLoop turns session).1 = none := by
  induction turns generalizing session with
  | zero =>
      have empty : session.bufferedSegments.entries = [] := List.eq_nil_of_length_eq_zero
        (Nat.le_zero.mp enough)
      simp only [flushLoop, flushStep_eq_none, OrderedDict.get?, empty, List.lookup_nil]
  | succ turns ih =>
      simp only [flushLoop]
      split
      · assumption
      · rename_i chunk next popped
        exact ih next (by have := flushStep_shrinks popped; omega)

theorem flushBuffer_done (session : StreamState) : flushStep (flushBuffer session).1 = none :=
  flushLoop_done _ session (Nat.le_refl _)

/-- Turns allowed past the loop's end change nothing. -/
theorem flushLoop_extra (turns extra : Nat) (session : StreamState)
    (done : flushStep (flushLoop turns session).1 = none) :
    flushLoop (turns + extra) session = flushLoop turns session := by
  induction turns generalizing session with
  | zero =>
      cases extra with
      | zero => rfl
      | succ extra =>
          simp only [flushLoop] at done
          simp only [flushLoop, done]
  | succ turns ih =>
      rw [Nat.succ_add]
      simp only [flushLoop] at done ⊢
      split
      · rfl
      · rename_i chunk next popped
        simp only [popped] at done
        rw [ih next done]

/-- The reassembly state kept under a key; nothing seen yet where there is no session. -/
def streamOf (state : State) (key : SessionKey) : StreamState :=
  ((state.get? key).map TCPSession.toStreamState).getD {}

@[simp] theorem streamOf_fresh (key : SessionKey) : streamOf fresh key = {} := rfl

theorem getOrCreateSession_stream (state : State) (key : SessionKey) (timestamp : Datetime) :
    (getOrCreateSession state key timestamp).toStreamState = streamOf state key := by
  unfold getOrCreateSession streamOf
  split <;> rename_i found <;> rw [found] <;> rfl

theorem closeSession_stream (state : State) (key other : SessionKey) (timestamp : Datetime) :
    streamOf (closeSession state key timestamp) other = streamOf state other := by
  unfold closeSession
  split
  · rfl
  · rename_i session found
    simp only [streamOf, OrderedDict.get?_set]
    split
    · rename_i same
      rw [same, found]
      rfl
    · rfl

theorem processPacket_chunks (state : State) (packet : TCPPacket) :
    (processPacket state packet).2 = (handlePacket (streamOf state (packetKey packet)) packet).2 := by
  simp only [processPacket, getOrCreateSession_stream]

/-- A packet updates the stream of its own key and no other. -/
theorem processPacket_stream (state : State) (packet : TCPPacket) (key : SessionKey) :
    streamOf (processPacket state packet).1 key =
      if key = packetKey packet then (handlePacket (streamOf state key) packet).1
      else streamOf state key := by
  have written : streamOf (state.set (packetKey packet)
      { getOrCreateSession state (packetKey packet) packet.timestamp with
        toStreamState := (handlePacket (streamOf state (packetKey packet)) packet).1 }) key =
      if key = packetKey packet then (handlePacket (streamOf state key) packet).1
      else streamOf state key := by
    simp only [streamOf, OrderedDict.get?_set]
    split
    · rename_i same
      subst same
      rfl
    · rfl
  simp only [processPacket, getOrCreateSession_stream]
  split
  · rw [closeSession_stream, written]
  · exact written

/-- `processPackets` on one stream alone. -/
def handlePackets (session : StreamState) :
    List TCPPacket → StreamState × List (List TimestampedChunk)
  | [] => (session, [])
  | packet :: rest =>
      let first := handlePacket session packet
      let later := handlePackets first.1 rest
      (later.1, first.2 :: later.2)

/-- Packets of one connection are processed by its stream alone. -/
theorem processPackets_sameKey (state : State) (key : SessionKey) (packets : List TCPPacket)
    (sameKey : ∀ packet ∈ packets, packetKey packet = key) :
    streamOf (processPackets state packets).1 key = (handlePackets (streamOf state key) packets).1 ∧
      (processPackets state packets).2 = (handlePackets (streamOf state key) packets).2 := by
  induction packets generalizing state with
  | nil => exact ⟨rfl, rfl⟩
  | cons packet rest ih =>
      have here := sameKey packet (List.mem_cons_self ..)
      have stepped : streamOf (processPacket state packet).1 key =
          (handlePacket (streamOf state key) packet).1 := by
        rw [processPacket_stream, ← here]
        simp only [↓reduceIte]
      have later := ih (processPacket state packet).1
        (fun other member => sameKey other (List.mem_cons_of_mem _ member))
      rw [stepped] at later
      simp only [processPackets, handlePackets, processPacket_chunks, here, later]
      exact ⟨trivial, trivial⟩

/-- A connection's stream is what its own packets make of it. -/
theorem processPackets_stream (state : State) (packets : List TCPPacket) (key : SessionKey) :
    streamOf (processPackets state packets).1 key =
      (handlePackets (streamOf state key) (packets.filter (packetKey · = key))).1 := by
  induction packets generalizing state with
  | nil => rfl
  | cons packet rest ih =>
      simp only [processPackets, ih, processPacket_stream]
      split
      · rename_i same
        rw [List.filter_cons_of_pos (by simpa using same.symm), handlePackets]
      · rename_i other
        rw [List.filter_cons_of_neg (by simpa using fun same => other same.symm)]

theorem processPackets_append (state : State) (first second : List TCPPacket) :
    processPackets state (first ++ second) =
      ((processPackets (processPackets state first).1 second).1,
        (processPackets state first).2 ++
          (processPackets (processPackets state first).1 second).2) := by
  induction first generalizing state with
  | nil => rfl
  | cons packet rest ih => simp only [List.cons_append, processPackets, ih]

theorem yielded_append (first second : List TimestampedChunk) :
    yielded (first ++ second) = yielded first ++ yielded second := List.flatMap_append

@[simp] theorem yielded_nil : yielded [] = [] := rfl

theorem yielded_cons (chunk : TimestampedChunk) (rest : List TimestampedChunk) :
    yielded (chunk :: rest) = chunk.data ++ yielded rest := List.flatMap_cons

/-- The four cases of a packet against the expected sequence. -/
inductive Handled (session : StreamState) (packet : TCPPacket) :
    StreamState × List TimestampedChunk → Prop
  | below (old : packet.sequenceNumber < session.expectedSequence) :
      Handled session packet (session, [])
  | ahead (early : session.expectedSequence < packet.sequenceNumber) :
      Handled session packet ({ session with
        bufferedSegments := session.bufferedSegments.set packet.sequenceNumber
          ⟨packet.timestamp, packet.payload⟩ }, [])
  | empty (next : packet.sequenceNumber = session.expectedSequence) (blank : packet.payload = []) :
      Handled session packet (session, [])
  | next (next : packet.sequenceNumber = session.expectedSequence) (full : packet.payload ≠ []) :
      Handled session packet
        ((flushBuffer { session with
            expectedSequence := session.expectedSequence + packet.payload.length }).1,
          ⟨packet.timestamp, packet.payload⟩ :: (flushBuffer { session with
            expectedSequence := session.expectedSequence + packet.payload.length }).2)

theorem handlePacket_cases (session : StreamState) (packet : TCPPacket)
    (begun : session.expectedSequence ≠ 0) :
    Handled session packet (handlePacket session packet) := by
  simp only [handlePacket, begun, ↓reduceIte]
  split
  · rename_i old
    exact .below old
  · split
    · rename_i early
      exact .ahead early
    · have next : packet.sequenceNumber = session.expectedSequence := by omega
      split
      · rename_i blank
        exact .empty next blank
      · rename_i full
        exact .next next full

/-- The first packet sets the expected sequence to its own. -/
theorem handlePacket_first (packet : TCPPacket) :
    handlePacket {} packet = handlePacket { expectedSequence := packet.sequenceNumber } packet := by
  simp only [handlePacket, ↓reduceIte, ite_self]

end SignalForge.TcpReassembler
