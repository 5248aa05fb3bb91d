import SignalForge.TcpReassemblerHandOver

/-! What a reassembler yields, told by the arrivals alone: the number it expects, and at each
later number the last packet that arrived there. -/

set_option autoImplicit false

namespace SignalForge.TcpReassembler

/-- What waits at each sequence number. -/
abbrev Waiting : Type := Nat → Option TimestampedChunk

def chunkOf (packet : TCPPacket) : TimestampedChunk := ⟨packet.timestamp, packet.payload⟩

/-- The last arrival at a number replaces an earlier one. -/
def arrive (waiting : Waiting) (packet : TCPPacket) : Waiting := fun seq =>
  if packet.sequenceNumber = seq then some (chunkOf packet) else waiting seq

theorem arrive_of_ne (waiting : Waiting) {packet : TCPPacket} {seq : Nat}
    (apart : packet.sequenceNumber ≠ seq) : arrive waiting packet seq = waiting seq := by
  simp only [arrive, apart, ↓reduceIte]

/-- The last copies of some packets, over what waited before them. -/
def waitingAfter (before : Waiting) (packets : List TCPPacket) : Waiting := fun seq =>
  ((lastCopy packets seq).map chunkOf).or (before seq)

@[simp] theorem waitingAfter_nil (before : Waiting) : waitingAfter before [] = before := rfl

theorem waitingAfter_snoc (before : Waiting) (packets : List TCPPacket) (packet : TCPPacket) :
    waitingAfter before (packets ++ [packet]) = arrive (waitingAfter before packets) packet := by
  funext seq
  simp only [waitingAfter, arrive, lastCopy_snoc]
  split <;> rfl

/-- Nothing waits. -/
def idle : Waiting := fun _ => none

/-- The number expected once a packet has been compared with it: the first sets it. -/
def openedAt (expected : Nat) (packet : TCPPacket) : Nat :=
  if expected = 0 then packet.sequenceNumber else expected

theorem openedAt_of_begun {expected : Nat} (packet : TCPPacket) (begun : expected ≠ 0) :
    openedAt expected packet = expected := by
  simp only [openedAt, begun, ↓reduceIte]

theorem le_openedAt (expected : Nat) (packet : TCPPacket) :
    expected ≤ openedAt expected packet := by
  unfold openedAt
  split <;> omega

theorem openedAt_eq_zero (expected : Nat) (packet : TCPPacket)
    (unopened : openedAt expected packet = 0) : packet.sequenceNumber = 0 := by
  unfold openedAt at unopened
  split at unopened
  · exact unopened
  · omega

/-- The packet carries data and starts at the number expected. -/
def Next (expected : Nat) (packet : TCPPacket) : Prop :=
  packet.sequenceNumber = openedAt expected packet ∧ packet.payload ≠ []

instance (expected : Nat) (packet : TCPPacket) : Decidable (Next expected packet) :=
  inferInstanceAs (Decidable (_ ∧ _))

/-- The session with its number set. -/
def openedSession (session : StreamState) (packet : TCPPacket) : StreamState :=
  { session with expectedSequence := openedAt session.expectedSequence packet }

/-- The four cases again, from a session that may still be waiting for its first packet. -/
theorem handlePacket_opened (session : StreamState) (packet : TCPPacket) :
    Handled (openedSession session packet) packet (handlePacket session packet) := by
  have same : handlePacket session packet =
      handlePacket (openedSession session packet) packet := by
    unfold handlePacket openedSession openedAt
    by_cases unopened : session.expectedSequence = 0
    · simp only [unopened, ↓reduceIte, ite_self]
    · simp only [unopened, ↓reduceIte]
  by_cases begun : (openedSession session packet).expectedSequence = 0
  · have zero : packet.sequenceNumber = 0 :=
      openedAt_eq_zero session.expectedSequence packet begun
    rw [same]
    unfold handlePacket
    simp only [begun, zero, ↓reduceIte, Nat.lt_irrefl]
    have next : packet.sequenceNumber = (openedSession session packet).expectedSequence := by
      rw [zero, begun]
    have unchanged : { openedSession session packet with expectedSequence := 0 } =
        openedSession session packet := by
      rw [← begun]
    split
    · rename_i blank
      rw [unchanged]
      exact .empty next blank
    · rename_i full
      have handled := Handled.next next full
      rw [begun] at handled
      exact handled
  · rw [same]
    exact handlePacket_cases _ packet begun

/-- The segments waiting end to end from a position on, and where they end. A blank one ends
the run, since it does not move the position. -/
inductive Released (waiting : Waiting) : Nat → List TimestampedChunk → Nat → Prop
  | stop {position : Nat} (absent : waiting position = none) :
      Released waiting position [] position
  | blank {position : Nat} {chunk : TimestampedChunk}
      (found : waiting position = some chunk) (empty : chunk.data = []) :
      Released waiting position [chunk] position
  | more {position last : Nat} {chunk : TimestampedChunk} {chunks : List TimestampedChunk}
      (found : waiting position = some chunk) (full : chunk.data ≠ [])
      (rest : Released waiting (position + chunk.data.length) chunks last) :
      Released waiting position (chunk :: chunks) last

theorem Released.le {waiting : Waiting} {position last : Nat} {chunks : List TimestampedChunk}
    (released : Released waiting position chunks last) : position ≤ last := by
  induction released with
  | stop => exact Nat.le_refl _
  | blank => exact Nat.le_refl _
  | more found full rest ih => omega

/-- What a session holds ahead is what waits there. At rest nothing waits where it stands. -/
structure Holding (waiting : Waiting) (session : StreamState) : Prop where
  ahead : ∀ seq, session.expectedSequence < seq →
    session.bufferedSegments.get? seq = waiting seq
  rest : session.bufferedSegments.get? session.expectedSequence = none
  unopened : session.expectedSequence = 0 → ∀ seq, session.bufferedSegments.get? seq = none

theorem holding_fresh : Holding idle {} := ⟨fun _ _ => rfl, rfl, fun _ _ => rfl⟩

theorem Holding.opened {waiting : Waiting} {session : StreamState} (inv : Holding waiting session)
    (packet : TCPPacket) : Holding waiting (openedSession session packet) := by
  have later := le_openedAt session.expectedSequence packet
  refine ⟨fun seq above => inv.ahead seq (Nat.lt_of_le_of_lt later above), ?_, ?_⟩
  · change session.bufferedSegments.get? (openedAt session.expectedSequence packet) = none
    by_cases unopened : session.expectedSequence = 0
    · exact inv.unopened unopened _
    · rw [openedAt_of_begun packet unopened]
      exact inv.rest
  · intro unopened
    change openedAt session.expectedSequence packet = 0 at unopened
    exact inv.unopened (by omega)

/-- The flush loop releases what waits end to end. The invariant is that the buffer agrees
with what waits from the position on. -/
theorem flushLoop_released (waiting : Waiting) (turns : Nat) (session : StreamState)
    (enough : session.bufferedSegments.length ≤ turns)
    (held : ∀ seq, session.expectedSequence ≤ seq →
      session.bufferedSegments.get? seq = waiting seq) :
    Released waiting session.expectedSequence (flushLoop turns session).2
        (flushLoop turns session).1.expectedSequence ∧
      ∀ seq, (flushLoop turns session).1.expectedSequence < seq →
        (flushLoop turns session).1.bufferedSegments.get? seq = waiting seq := by
  induction turns generalizing session with
  | zero =>
      have empty : session.bufferedSegments.entries = [] :=
        List.eq_nil_of_length_eq_zero (Nat.le_zero.mp enough)
      refine ⟨.stop ?_, fun seq above => held seq (Nat.le_of_lt above)⟩
      rw [← held _ (Nat.le_refl _), OrderedDict.get?, empty, List.lookup_nil]
  | succ turns ih =>
      simp only [flushLoop]
      split
      · rename_i done
        refine ⟨.stop ?_, fun seq above => held seq (Nat.le_of_lt above)⟩
        rw [← held _ (Nat.le_refl _), (flushStep_eq_none session).mp done]
      · rename_i chunk next popped
        have shorter := flushStep_shrinks popped
        obtain ⟨found, erased, moved⟩ := flushStep_eq_some popped
        have here : waiting session.expectedSequence = some chunk := by
          rw [← held _ (Nat.le_refl _), found]
        have kept : ∀ seq, session.expectedSequence < seq →
            next.bufferedSegments.get? seq = waiting seq := by
          intro seq above
          rw [erased, OrderedDict.get?_erase_of_ne _ (by omega)]
          exact held seq (by omega)
        by_cases empty : chunk.data = []
        · -- the popped number stays expected, so the guard is false at once
          have still : next.expectedSequence = session.expectedSequence := by
            rw [moved, empty, List.length_nil, Nat.add_zero]
          have done : flushStep next = none := by
            rw [flushStep_eq_none, still, erased, OrderedDict.get?_erase_self]
          have ended : flushLoop turns next = (next, []) := by
            cases turns with
            | zero => rfl
            | succ turns => simp only [flushLoop, done]
          rw [ended]
          simp only [still]
          exact ⟨.blank here empty, kept⟩
        · have positive := List.length_pos_iff.mpr empty
          obtain ⟨released, after⟩ := ih next (by omega) (fun seq above => kept seq (by omega))
          rw [moved] at released
          exact ⟨.more here empty released, after⟩

/-- A packet that is not next yields nothing and leaves the number where it was. -/
theorem handlePacket_quiet (session : StreamState) (packet : TCPPacket)
    (notNext : ¬ Next session.expectedSequence packet) :
    (handlePacket session packet).2 = [] ∧
      (handlePacket session packet).1.expectedSequence =
        openedAt session.expectedSequence packet := by
  have handled := handlePacket_opened session packet
  generalize handlePacket session packet = result at handled ⊢
  cases handled with
  | below old => exact ⟨rfl, rfl⟩
  | ahead early => exact ⟨rfl, rfl⟩
  | empty next blank => exact ⟨rfl, rfl⟩
  | next next full => exact (notNext ⟨next, full⟩).elim

/-- The next packet is yielded, and behind it all that waits end to end. -/
theorem handlePacket_next {waiting : Waiting} {session : StreamState}
    (inv : Holding waiting session) {packet : TCPPacket}
    (isNext : Next session.expectedSequence packet) :
    ∃ chunks, (handlePacket session packet).2 = chunkOf packet :: chunks ∧
      Released waiting (packet.sequenceNumber + packet.payload.length) chunks
        (handlePacket session packet).1.expectedSequence := by
  have handled := handlePacket_opened session packet
  have inv := inv.opened packet
  have starts : packet.sequenceNumber = (openedSession session packet).expectedSequence :=
    isNext.1
  have positive := List.length_pos_iff.mpr isNext.2
  generalize handlePacket session packet = result at handled ⊢
  cases handled with
  | below old => omega
  | ahead early => omega
  | empty next blank => exact (isNext.2 blank).elim
  | next next full =>
      have held : ∀ seq, (openedSession session packet).expectedSequence +
          packet.payload.length ≤ seq →
          (openedSession session packet).bufferedSegments.get? seq = waiting seq := by
        intro seq above
        exact inv.ahead seq (by omega)
      rw [starts]
      exact ⟨_, rfl, (flushLoop_released waiting _
        { openedSession session packet with
          expectedSequence := (openedSession session packet).expectedSequence +
            packet.payload.length } (Nat.le_refl _) held).1⟩

/-- The number expected never falls. -/
theorem Holding.expected_le {waiting : Waiting} {session : StreamState}
    (inv : Holding waiting session) (packet : TCPPacket) :
    session.expectedSequence ≤ (handlePacket session packet).1.expectedSequence := by
  have later := le_openedAt session.expectedSequence packet
  by_cases next : Next session.expectedSequence packet
  · obtain ⟨chunks, call, released⟩ := handlePacket_next inv next
    have reached := released.le
    have starts := next.1
    omega
  · rw [(handlePacket_quiet session packet next).2]
    exact later

/-- One more arrival. -/
theorem Holding.handlePacket {waiting : Waiting} {session : StreamState}
    (inv : Holding waiting session) (packet : TCPPacket) :
    Holding (arrive waiting packet) (handlePacket session packet).1 := by
  have handled := handlePacket_opened session packet
  have inv := inv.opened packet
  have opens : (openedSession session packet).expectedSequence = 0 →
      packet.sequenceNumber = 0 := openedAt_eq_zero session.expectedSequence packet
  generalize TcpReassembler.handlePacket session packet = result at handled ⊢
  generalize openedSession session packet = opened at handled inv opens
  cases handled with
  | below old =>
      refine ⟨fun seq above => ?_, inv.rest, inv.unopened⟩
      rw [arrive_of_ne waiting (by simp only at above; omega)]
      exact inv.ahead seq above
  | ahead early =>
      refine ⟨fun seq above => ?_, ?_, fun unopened => ?_⟩
      · unfold arrive
        rw [OrderedDict.get?_set]
        by_cases same : packet.sequenceNumber = seq
        · simp only [same, ↓reduceIte]
          rfl
        · have apart : seq ≠ packet.sequenceNumber := fun equal => same equal.symm
          simp only [same, apart, ↓reduceIte]
          exact inv.ahead seq above
      · rw [OrderedDict.get?_set_of_ne _ _ (Nat.ne_of_lt early)]
        exact inv.rest
      · have := opens unopened
        omega
  | empty next blank =>
      refine ⟨fun seq above => ?_, inv.rest, inv.unopened⟩
      rw [arrive_of_ne waiting (by simp only at above; omega)]
      exact inv.ahead seq above
  | next next full =>
      have positive := List.length_pos_iff.mpr full
      have held : ∀ seq, opened.expectedSequence + packet.payload.length ≤ seq →
          opened.bufferedSegments.get? seq = arrive waiting packet seq := by
        intro seq above
        rw [arrive_of_ne waiting (by omega)]
        exact inv.ahead seq (by omega)
      have flushed := flushLoop_released (arrive waiting packet) _
        { opened with expectedSequence := opened.expectedSequence + packet.payload.length }
        (Nat.le_refl _) held
      refine ⟨flushed.2, (flushStep_eq_none _).mp (flushBuffer_done _), fun unopened => ?_⟩
      have later : opened.expectedSequence + packet.payload.length ≤ 0 :=
        Nat.le_trans flushed.1.le (Nat.le_of_eq unopened)
      omega

end SignalForge.TcpReassembler
