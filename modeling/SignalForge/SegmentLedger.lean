import SignalForge.TcpReassemblerSafety
import SignalForge.TcpReassemblerWaiting

/-! Where every segment goes: the chunks yielded, the buffers, the retransmissions refused, the
segments replaced in a buffer and the empty packets hold what the packets brought, each once. -/

set_option autoImplicit false

namespace OrderedDict

variable {κ ν : Type} [DecidableEq κ]

theorem entries_of_get? {d : OrderedDict κ ν} {key : κ} {value : ν}
    (found : d.get? key = some value) :
    ∃ before after, d.entries = before ++ (key, value) :: after ∧
      key ∉ before.map Prod.fst ∧ key ∉ after.map Prod.fst := by
  obtain ⟨before, after, split⟩ := List.append_of_mem (mem_of_get? found)
  have nodup := d.nodup
  rw [split, List.map_append, List.map_cons, List.nodup_middle, List.nodup_cons,
    List.mem_append, not_or] at nodup
  exact ⟨before, after, split, nodup.1⟩

theorem overwrite_of_not_mem {entries : List (κ × ν)} {key : κ}
    (absent : key ∉ entries.map Prod.fst) (value : ν) : overwrite entries key value = entries := by
  rw [overwrite, List.map_congr_left fun entry member => if_neg fun same =>
    absent (List.mem_map.mpr ⟨entry, member, same⟩), List.map_id']

omit [DecidableEq κ] in
theorem eq_of_entries {left right : OrderedDict κ ν} (same : left.entries = right.entries) :
    left = right := by
  obtain ⟨entries, nodup⟩ := left
  cases same
  rfl

/-- Of two writes of one key the second counts. -/
theorem set_set (d : OrderedDict κ ν) (key : κ) (first second : ν) :
    (d.set key first).set key second = d.set key second := by
  have known : ¬ key ∉ (d.set key first).entries.map Prod.fst :=
    not_not.mpr ((mem_keys_set d key key first).mpr (Or.inl rfl))
  apply eq_of_entries
  rw [set, dif_neg known]
  show overwrite (d.set key first).entries key second = _
  by_cases fresh : key ∉ d.entries.map Prod.fst
  · rw [set, set, dif_pos fresh, dif_pos fresh]
    show overwrite (d.entries ++ [(key, first)]) key second = d.entries ++ [(key, second)]
    rw [overwrite, List.map_append, ← overwrite, overwrite_of_not_mem fresh, List.map_singleton,
      if_pos rfl]
  · rw [set, set, dif_neg fresh, dif_neg fresh]
    show overwrite (overwrite d.entries key first) key second = overwrite d.entries key second
    simp only [overwrite, List.map_map]
    refine List.map_congr_left fun entry _ => ?_
    rw [Function.comp_apply]
    by_cases same : entry.1 = key
    · rw [if_pos same, if_pos same, if_pos rfl]
    · rw [if_neg same, if_neg same]

theorem filter_of_not_mem {entries : List (κ × ν)} {key : κ}
    (absent : key ∉ entries.map Prod.fst) :
    entries.filter (fun entry => entry.1 ≠ key) = entries :=
  List.filter_eq_self.mpr fun entry member => decide_eq_true fun same =>
    absent (List.mem_map.mpr ⟨entry, member, same⟩)

/-- What a write leaves, with what it replaced, is what there was with what was written. -/
theorem values_set_perm (d : OrderedDict κ ν) (key : κ) (value : ν) :
    ((d.set key value).values ++ (d.get? key).toList).Perm (value :: d.values) := by
  rcases found : d.get? key with _ | old
  · have fresh : key ∉ d.keys := fun known => by
      rw [mem_keys_iff, found] at known
      cases known
    rw [values_set_of_fresh d fresh, Option.toList_none, List.append_nil]
    exact List.perm_append_singleton _ _
  · obtain ⟨before, after, split, notBefore, notAfter⟩ := entries_of_get? found
    have known : ¬ key ∉ d.entries.map Prod.fst :=
      not_not.mpr (List.mem_map_of_mem (mem_of_get? found))
    have written : (d.set key value).entries = before ++ (key, value) :: after := by
      rw [set, dif_neg known]
      show overwrite d.entries key value = _
      rw [split, overwrite, List.map_append, List.map_cons, if_pos rfl]
      exact congrArg₂ (· ++ (key, value) :: ·) (overwrite_of_not_mem notBefore value)
        (overwrite_of_not_mem notAfter value)
    rw [values, values, written, split, List.map_append, List.map_append, List.map_cons,
      List.map_cons, Option.toList_some]
    refine (List.perm_append_singleton old _).trans ?_
    exact ((List.perm_middle.cons old).trans (.swap ..)).trans (List.perm_middle.symm.cons value)

theorem values_erase_perm (d : OrderedDict κ ν) (key : κ) :
    ((d.erase key).values ++ (d.get? key).toList).Perm d.values := by
  rcases found : d.get? key with _ | old
  · have absent : key ∉ d.entries.map Prod.fst := (get?_eq_none_iff d key).mp found
    have left : (d.erase key).entries = d.entries := filter_of_not_mem absent
    rw [values, values, left, Option.toList_none, List.append_nil]
  · obtain ⟨before, after, split, notBefore, notAfter⟩ := entries_of_get? found
    have left : (d.erase key).entries = before ++ after := by
      show d.entries.filter _ = _
      rw [split, List.filter_append, List.filter_cons_of_neg (by simp),
        filter_of_not_mem notBefore, filter_of_not_mem notAfter]
    rw [values, values, left, split, List.map_append, List.map_append, List.map_cons,
      Option.toList_some]
    exact (List.perm_append_singleton old _).trans List.perm_middle.symm

end OrderedDict

namespace SignalForge.TcpReassembler

/-- A packet as the chunk it is yielded or held as. -/
def segment (packet : TCPPacket) : TimestampedChunk := ⟨packet.timestamp, packet.payload⟩

/-- What reassembly drops: retransmissions, segments replaced in the buffer by later ones of the
same number, and empty packets whose turn it is. -/
structure Dropped where
  refused : List TCPPacket := []
  replaced : List TimestampedChunk := []
  blank : List TCPPacket := []

namespace Dropped

def append (first second : Dropped) : Dropped where
  refused := first.refused ++ second.refused
  replaced := first.replaced ++ second.replaced
  blank := first.blank ++ second.blank

def chunks (dropped : Dropped) : List TimestampedChunk :=
  dropped.refused.map segment ++ dropped.replaced ++ dropped.blank.map segment

end Dropped

/-- What a packet makes its session drop. -/
def droppedBy (session : StreamState) (packet : TCPPacket) : Dropped :=
  if packet.sequenceNumber < session.expectedSequence then { refused := [packet] }
  else if session.expectedSequence ≠ 0 ∧ session.expectedSequence < packet.sequenceNumber then
    { replaced := (session.bufferedSegments.get? packet.sequenceNumber).toList }
  else if packet.payload = [] then { blank := [packet] }
  else {}

/-- What the packets of a run make their sessions drop. -/
def droppedIn (state : State) : List TCPPacket → Dropped
  | [] => {}
  | packet :: rest => (droppedBy (streamOf state (packetKey packet)) packet).append
      (droppedIn (processPacket state packet).1 rest)

/-- The empty packets are empty. -/
theorem droppedIn_blank (state : State) (packets : List TCPPacket) :
    ∀ packet ∈ (droppedIn state packets).blank, packet.payload = [] := by
  induction packets generalizing state with
  | nil => exact List.forall_mem_nil _
  | cons first rest ih =>
      intro packet member
      rcases List.mem_append.mp member with here | later
      · rw [droppedBy] at here
        split at here
        · cases here
        · split at here
          · cases here
          · split at here
            · rename_i blank
              rw [List.mem_singleton.mp here]
              exact blank
            · cases here
      · exact ih _ packet later

theorem droppedBy_of_next {session : StreamState} {packet : TCPPacket}
    (next : packet.sequenceNumber = if session.expectedSequence = 0 then packet.sequenceNumber
      else session.expectedSequence) :
    droppedBy session packet = if packet.payload = [] then { blank := [packet] } else {} := by
  have notBelow : ¬ packet.sequenceNumber < session.expectedSequence := by
    split at next <;> omega
  have notAhead : ¬ (session.expectedSequence ≠ 0 ∧
      session.expectedSequence < packet.sequenceNumber) := by
    rintro ⟨begun, ahead⟩
    rw [if_neg begun] at next
    exact Nat.lt_irrefl _ (next ▸ ahead)
  rw [droppedBy, if_neg notBelow, if_neg notAhead]

/-- The flush loop yields what it takes out of the buffer. -/
theorem flushLoop_perm (turns : Nat) (session : StreamState) :
    ((flushLoop turns session).2 ++ (flushLoop turns session).1.bufferedSegments.values).Perm
      session.bufferedSegments.values := by
  induction turns generalizing session with
  | zero => exact .refl _
  | succ turns ih =>
      rw [flushLoop]
      split
      · exact .refl _
      · rename_i chunk next popped
        obtain ⟨found, erased, _⟩ := flushStep_eq_some popped
        have left := session.bufferedSegments.values_erase_perm session.expectedSequence
        rw [found, Option.toList_some, ← erased] at left
        exact (((ih next).cons chunk).trans (List.perm_append_singleton chunk _).symm).trans left

/-- One packet: what is yielded, held and dropped is what was held and what the packet brings. -/
theorem handlePacket_perm (session : StreamState) (packet : TCPPacket) :
    ((handlePacket session packet).2 ++ (handlePacket session packet).1.bufferedSegments.values ++
        (droppedBy session packet).chunks).Perm
      (segment packet :: session.bufferedSegments.values) := by
  have handled := handlePacket_opened session packet
  have expected : (openedSession session packet).expectedSequence =
      if session.expectedSequence = 0 then packet.sequenceNumber
      else session.expectedSequence := rfl
  generalize handlePacket session packet = result at handled
  cases handled with
  | below old =>
      have refused : packet.sequenceNumber < session.expectedSequence := by
        rw [expected] at old
        split at old
        · exact (Nat.lt_irrefl _ old).elim
        · exact old
      rw [droppedBy, if_pos refused, List.nil_append]
      exact List.perm_append_singleton _ _
  | ahead early =>
      have waits : session.expectedSequence ≠ 0 ∧
          session.expectedSequence < packet.sequenceNumber := by
        rw [expected] at early
        split at early
        · exact (Nat.lt_irrefl _ early).elim
        · rename_i begun
          exact ⟨begun, early⟩
      rw [droppedBy, if_neg (Nat.not_lt.mpr (Nat.le_of_lt waits.2)), if_pos waits,
        List.nil_append]
      show (_ ++ ([] ++ _ ++ [])).Perm _
      rw [List.nil_append, List.append_nil]
      exact OrderedDict.values_set_perm ..
  | empty next blank =>
      rw [droppedBy_of_next (expected ▸ next), if_pos blank, List.nil_append]
      exact List.perm_append_singleton _ _
  | next next full =>
      rw [droppedBy_of_next (expected ▸ next), if_neg full]
      show ((segment packet :: _) ++ _ ++ []).Perm _
      rw [List.append_nil, List.cons_append]
      exact (flushLoop_perm _ _).cons _

theorem getD_segments (state : State) (key : SessionKey) :
    ((state.get? key).toList.flatMap fun session => session.bufferedSegments.values) =
      (streamOf state key).bufferedSegments.values := by
  rw [streamOf]
  cases state.get? key with
  | none => rfl
  | some session => exact List.flatMap_singleton _ _

/-- A session written to the table takes what it holds out of the table and puts its own in. -/
theorem held_set (state : State) (key : SessionKey) (session : TCPSession) :
    (held (state.set key session) ++ (streamOf state key).bufferedSegments.values).Perm
      (session.bufferedSegments.values ++ held state) := by
  have written := (state.values_set_perm key session).flatMap_right
    fun session => session.bufferedSegments.values
  rw [List.flatMap_append, List.flatMap_cons, getD_segments] at written
  exact written

theorem held_closeSession (state : State) (key : SessionKey) (timestamp : Datetime) :
    (held (SessionTracker.closeSession state key timestamp)).Perm (held state) := by
  rw [SessionTracker.closeSession]
  split
  · exact .refl _
  · rename_i session found
    have written := held_set state key { session with endTimestamp := some timestamp }
    have same : (streamOf state key).bufferedSegments = session.bufferedSegments := by
      rw [streamOf, found]
      rfl
    rw [same] at written
    exact (List.perm_append_right_iff _).mp (written.trans List.perm_append_comm)

/-- One packet, over the whole table. -/
theorem processPacket_perm (state : State) (packet : TCPPacket) :
    ((processPacket state packet).2 ++ held (processPacket state packet).1 ++
        (droppedBy (streamOf state (packetKey packet)) packet).chunks).Perm
      (segment packet :: held state) := by
  have handled := handlePacket_perm (streamOf state (packetKey packet)) packet
  have stored : (held (processPacket state packet).1 ++
      (streamOf state (packetKey packet)).bufferedSegments.values).Perm
        ((handlePacket (streamOf state (packetKey packet)) packet).1.bufferedSegments.values ++
          held state) := by
    have written := held_set state (packetKey packet)
      { SessionTracker.getOrCreateSession state (packetKey packet) packet.timestamp with
        toStreamState := (handlePacket (streamOf state (packetKey packet)) packet).1 }
    rw [processPacket, getOrCreateSession_stream]
    split
    · exact ((held_closeSession _ _ _).append_right _).trans written
    · exact written
  rw [processPacket_chunks, List.perm_iff_count]
  intro chunk
  have fromHandled := List.perm_iff_count.mp handled chunk
  have fromStored := List.perm_iff_count.mp stored chunk
  simp only [List.count_append, List.count_cons] at fromHandled fromStored ⊢
  omega

theorem Dropped.chunks_append (first second : Dropped) :
    (first.append second).chunks.Perm (first.chunks ++ second.chunks) := by
  rw [List.perm_iff_count]
  intro chunk
  simp only [chunks, append, List.map_append, List.count_append]
  omega

/-- Every packet's segment ends in exactly one place, with its payload and its time: it was
yielded, or is held, or was dropped, as a retransmission, as an empty packet, or when a later one of
its number took its place. -/
theorem segments_accounted (state : State) (packets : List TCPPacket) :
    ((processPackets state packets).2.flatten ++ held (processPackets state packets).1 ++
        (droppedIn state packets).chunks).Perm
      (packets.map segment ++ held state) := by
  induction packets generalizing state with
  | nil => exact .of_eq (List.append_nil _)
  | cons packet rest ih =>
      have here := processPacket_perm state packet
      have later := ih (processPacket state packet).1
      have both := Dropped.chunks_append (droppedBy (streamOf state (packetKey packet)) packet)
        (droppedIn (processPacket state packet).1 rest)
      rw [List.perm_iff_count] at here later both ⊢
      intro chunk
      specialize here chunk
      specialize later chunk
      specialize both chunk
      rw [processPackets, droppedIn]
      simp only [List.flatten_cons, List.map_cons, List.count_append, List.count_cons] at *
      omega

end SignalForge.TcpReassembler
