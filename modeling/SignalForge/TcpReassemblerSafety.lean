import SignalForge.TcpReassemblerStreams

/-! Whatever slices of a byte stream arrive, in whatever order, what has been yielded is a
prefix of that stream. -/

set_option autoImplicit false

namespace SignalForge.TcpReassembler

/-- `data` is what `stream`, which starts at sequence number `start`, holds from `seq` on. -/
structure SliceAt (stream : Bytes) (start seq : Nat) (data : Bytes) : Prop where
  lower : start ≤ seq
  upper : seq - start + data.length ≤ stream.length
  same : data = (stream.drop (seq - start)).take data.length

/-- A packet carrying a true slice of the stream at its true sequence number. -/
def Carries (stream : Bytes) (start : Nat) (packet : TCPPacket) : Prop :=
  SliceAt stream start packet.sequenceNumber packet.payload

/-- Everything yielded is the stream up to the expected sequence, and everything held
belongs to the stream. -/
structure Contiguous (stream : Bytes) (start : Nat) (session : StreamState) (out : Bytes) :
    Prop where
  lower : start ≤ session.expectedSequence
  upper : session.expectedSequence - start ≤ stream.length
  delivered : out = stream.take (session.expectedSequence - start)
  held : ∀ seq chunk, session.bufferedSegments.get? seq = some chunk →
    SliceAt stream start seq chunk.data

theorem take_extend (stream : Bytes) (start seq : Nat) (data : Bytes)
    (slice : SliceAt stream start seq data) :
    stream.take (seq - start) ++ data = stream.take (seq + data.length - start) := by
  have lower := slice.lower
  calc
    stream.take (seq - start) ++ data =
        stream.take (seq - start) ++ (stream.drop (seq - start)).take data.length := by
      rw [← slice.same]
    _ = stream.take (seq - start + data.length) := List.take_add.symm
    _ = stream.take (seq + data.length - start) := by
      congr 1
      omega

theorem Contiguous.advance {stream : Bytes} {start : Nat} {session next : StreamState}
    {out data : Bytes} (inv : Contiguous stream start session out)
    (slice : SliceAt stream start session.expectedSequence data)
    (moved : next.expectedSequence = session.expectedSequence + data.length)
    (held : ∀ seq chunk, next.bufferedSegments.get? seq = some chunk →
      SliceAt stream start seq chunk.data) :
    Contiguous stream start next (out ++ data) := by
  have lower := inv.lower
  have upper := slice.upper
  refine ⟨by omega, by omega, ?_, held⟩
  rw [inv.delivered, take_extend stream start _ data slice, moved]

theorem flushLoop_contiguous (stream : Bytes) (start turns : Nat) (session : StreamState)
    (out : Bytes) (inv : Contiguous stream start session out) :
    Contiguous stream start (flushLoop turns session).1
      (out ++ yielded (flushLoop turns session).2) := by
  induction turns generalizing session out with
  | zero => simpa only [flushLoop, yielded_nil, List.append_nil] using inv
  | succ turns ih =>
      simp only [flushLoop]
      split
      · simpa only [yielded_nil, List.append_nil] using inv
      · rename_i chunk next popped
        obtain ⟨found, erased, moved⟩ := flushStep_eq_some popped
        have advanced := inv.advance (inv.held _ _ found) moved (by
          intro seq kept keptFound
          rw [erased, OrderedDict.get?_erase] at keptFound
          split at keptFound
          · cases keptFound
          · exact inv.held seq kept keptFound)
        rw [yielded_cons, ← List.append_assoc]
        exact ih next (out ++ chunk.data) advanced

theorem handlePacket_contiguous (stream : Bytes) (start : Nat) (session : StreamState)
    (packet : TCPPacket) (out : Bytes) (begun : session.expectedSequence ≠ 0)
    (carries : Carries stream start packet) (inv : Contiguous stream start session out) :
    Contiguous stream start (handlePacket session packet).1
      (out ++ yielded (handlePacket session packet).2) := by
  have handled := handlePacket_cases session packet begun
  generalize handlePacket session packet = result at handled ⊢
  cases handled with
  | below old => simpa only [yielded_nil, List.append_nil] using inv
  | ahead early =>
      simp only [yielded_nil, List.append_nil]
      refine ⟨inv.lower, inv.upper, inv.delivered, ?_⟩
      intro seq chunk found
      rw [OrderedDict.get?_set] at found
      split at found
      · rename_i same
        cases found
        rw [same]
        exact carries
      · exact inv.held seq chunk found
  | empty next blank => simpa only [yielded_nil, List.append_nil] using inv
  | next next full =>
      rw [yielded_cons, ← List.append_assoc]
      apply flushLoop_contiguous
      exact inv.advance (next ▸ carries) rfl inv.held

/-- What a session holds ahead of a gap. -/
def held (state : State) : List TimestampedChunk :=
  state.values.flatMap fun session => session.bufferedSegments.values

theorem count_chunks (chunks : List TimestampedChunk) (counts : Nat × Nat) :
    chunks.foldl (fun counts chunk => (counts.1 + 1, counts.2 + chunk.data.length)) counts =
      (counts.1 + chunks.length, counts.2 + (yielded chunks).length) := by
  induction chunks generalizing counts with
  | nil => rfl
  | cons chunk rest ih =>
      simp only [List.foldl_cons, ih, yielded_cons, List.length_cons, List.length_append,
        Prod.mk.injEq]
      omega

theorem count_sessions (sessions : List TCPSession) (counts : Nat × Nat) :
    sessions.foldl (fun counts session =>
        (counts.1 + session.bufferedSegments.values.length,
          counts.2 + (yielded session.bufferedSegments.values).length)) counts =
      (counts.1 + (sessions.flatMap fun session => session.bufferedSegments.values).length,
        counts.2 + (yielded (sessions.flatMap fun session =>
          session.bufferedSegments.values)).length) := by
  induction sessions generalizing counts with
  | nil => rfl
  | cons session rest ih =>
      simp only [List.foldl_cons, ih, List.flatMap_cons, yielded_append, List.length_append,
        Prod.mk.injEq]
      omega

/-- The two counts are those of exactly what was held. -/
theorem discardIncomplete_counts (state : State) :
    (discardIncomplete state).2 = ((held state).length, (yielded (held state)).length) := by
  simp only [discardIncomplete, held, count_chunks, count_sessions, Nat.zero_add]

theorem discardIncomplete_held (state : State) : held (discardIncomplete state).1 = [] := by
  simp only [held, discardIncomplete, OrderedDict.values_mapValues, List.flatMap_map]
  exact List.flatMap_eq_nil_iff.mpr fun session _ => rfl

theorem discardIncomplete_stream (state : State) (key : SessionKey) :
    streamOf (discardIncomplete state).1 key =
      { streamOf state key with bufferedSegments := .empty } := by
  simp only [streamOf, discardIncomplete, OrderedDict.get?_mapValues, Option.map_map]
  cases state.get? key <;> rfl

theorem Contiguous.discard {stream : Bytes} {start : Nat} {session : StreamState} {out : Bytes}
    (inv : Contiguous stream start session out) :
    Contiguous stream start { session with bufferedSegments := .empty } out :=
  ⟨inv.lower, inv.upper, inv.delivered, fun _ _ found => by cases found⟩

/-- What can happen to a reassembler: a packet, or the end-of-stream discard. -/
inductive Action where
  | packet (packet : TCPPacket)
  | discard

/-- The state after some actions and every chunk yielded on the way. -/
def runActions (state : State) : List Action → State × List TimestampedChunk
  | [] => (state, [])
  | .packet packet :: rest =>
      let first := processPacket state packet
      let later := runActions first.1 rest
      (later.1, first.2 ++ later.2)
  | .discard :: rest => runActions (discardIncomplete state).1 rest

/-- Packets of one direction, each a true slice of the stream. -/
def ActionOk (stream : Bytes) (start : Nat) (like : TCPPacket) : Action → Prop
  | .packet packet => packetKey packet = packetKey like ∧ Carries stream start packet
  | .discard => True

theorem runActions_contiguous (stream : Bytes) (start : Nat) (positive : 0 < start)
    (like : TCPPacket) (actions : List Action) (state : State) (out : Bytes)
    (ok : ∀ action ∈ actions, ActionOk stream start like action)
    (inv : Contiguous stream start (streamOf state (packetKey like)) out) :
    Contiguous stream start (streamOf (runActions state actions).1 (packetKey like))
      (out ++ yielded (runActions state actions).2) := by
  induction actions generalizing state out with
  | nil => simpa only [runActions, yielded_nil, List.append_nil] using inv
  | cons action rest ih =>
      have later : ∀ action ∈ rest, ActionOk stream start like action :=
        fun other member => ok other (List.mem_cons_of_mem _ member)
      cases action with
      | discard =>
          apply ih _ _ later
          rw [discardIncomplete_stream]
          exact inv.discard
      | packet packet =>
          obtain ⟨sameKey, carries⟩ := ok (.packet packet) (List.mem_cons_self ..)
          have begun : (streamOf state (packetKey like)).expectedSequence ≠ 0 := by
            have := inv.lower
            omega
          have stepped := handlePacket_contiguous stream start _ packet out begun carries inv
          simp only [runActions, yielded_append, ← List.append_assoc]
          apply ih _ _ later
          rw [processPacket_stream, processPacket_chunks, sameKey]
          simpa only [↓reduceIte] using stepped

theorem fresh_contiguous (stream : Bytes) (start : Nat) :
    Contiguous stream start { expectedSequence := start } [] :=
  ⟨Nat.le_refl _, by simp only [Nat.sub_self, Nat.zero_le],
    by simp only [Nat.sub_self, List.take_zero], fun _ _ found => by cases found⟩

/-- Over every sequence of slices of a stream, discards in between included, the bytes
yielded are a prefix of the stream, and a discard counts exactly what is held and keeps
none of it. -/
theorem yields_prefix (stream : Bytes) (start : Nat) (positive : 0 < start) (first : TCPPacket)
    (actions : List Action) (begins : first.sequenceNumber = start)
    (carries : Carries stream start first)
    (ok : ∀ action ∈ actions, ActionOk stream start first action) :
    let run := runActions fresh (.packet first :: actions)
    yielded run.2 <+: stream ∧
      (discardIncomplete run.1).2 = ((held run.1).length, (yielded (held run.1)).length) ∧
      held (discardIncomplete run.1).1 = [] := by
  refine ⟨?_, discardIncomplete_counts _, discardIncomplete_held _⟩
  have started := handlePacket_contiguous stream start { expectedSequence := start } first []
    (Nat.pos_iff_ne_zero.mp positive) carries (fresh_contiguous stream start)
  rw [← begins, ← handlePacket_first, begins] at started
  have run := runActions_contiguous stream start positive first actions
    (processPacket fresh first).1 _ ok (by
      rw [processPacket_stream]
      simpa only [↓reduceIte, streamOf_fresh] using started)
  simp only [runActions, yielded_append, processPacket_chunks, streamOf_fresh]
  simp only [List.nil_append] at run
  rw [run.delivered]
  exact List.take_prefix _ _

/-- A gap, a discard, and the byte that would have filled the gap. -/
theorem yields_prefix_across_discard :
    let run := runActions fresh [.packet (samplePacket 100 [1, 2]),
      .packet (samplePacket 103 [4]), .discard, .packet (samplePacket 102 [3])]
    yielded run.2 <+: [1, 2, 3, 4] ∧
      (discardIncomplete run.1).2 = ((held run.1).length, (yielded (held run.1)).length) ∧
      held (discardIncomplete run.1).1 = [] :=
  yields_prefix [1, 2, 3, 4] 100 (by decide) (samplePacket 100 [1, 2])
    [.packet (samplePacket 103 [4]), .discard, .packet (samplePacket 102 [3])] rfl
    ⟨by decide, by decide, by decide⟩ (by
      simp only [List.forall_mem_cons, List.not_mem_nil, false_implies, implies_true, and_true]
      exact ⟨⟨rfl, by decide, by decide, by decide⟩, trivial, rfl, by decide, by decide,
        by decide⟩)

end SignalForge.TcpReassembler
