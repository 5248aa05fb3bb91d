import SignalForge.TcpReassemblerSafety

/-! For a stream cut once into segments, what is yielded after any arrivals is exactly the
longest run of segments from the first whose members have all arrived. -/

set_option autoImplicit false

namespace SignalForge.TcpReassembler

/-- The sequence number at which segment `index` starts. -/
def startOf (segments : List Bytes) (start index : Nat) : Nat :=
  start + (segments.take index).flatten.length

@[simp] theorem startOf_zero (segments : List Bytes) (start : Nat) :
    startOf segments start 0 = start := rfl

theorem startOf_succ (segments : List Bytes) (start index : Nat) (segment : Bytes)
    (found : segments[index]? = some segment) :
    startOf segments start (index + 1) = startOf segments start index + segment.length := by
  simp only [startOf, List.take_add_one, found, Option.toList_some, List.flatten_append,
    List.length_append, List.flatten_cons, List.flatten_nil, List.append_nil]
  omega

theorem startOf_lt (segments : List Bytes) (start : Nat)
    (nonempty : ∀ segment ∈ segments, segment ≠ []) {low high : Nat} (less : low < high)
    (within : high ≤ segments.length) :
    startOf segments start low < startOf segments start high := by
  induction high with
  | zero => omega
  | succ high ih =>
      have found : segments[high]? = some segments[high] := List.getElem?_eq_getElem within
      have positive := List.length_pos_iff.mpr (nonempty _ (List.getElem_mem within))
      rw [startOf_succ segments start high _ found]
      by_cases same : low = high
      · rw [same]
        omega
      · have := ih (by omega) (by omega)
        omega

theorem startOf_lt_iff (segments : List Bytes) (start : Nat)
    (nonempty : ∀ segment ∈ segments, segment ≠ []) {low high : Nat}
    (lowWithin : low ≤ segments.length) (highWithin : high ≤ segments.length) :
    startOf segments start low < startOf segments start high ↔ low < high := by
  constructor
  · intro less
    by_contra notLess
    rcases Nat.eq_or_lt_of_le (Nat.le_of_not_lt notLess) with same | more
    · rw [same] at less
      omega
    · have := startOf_lt segments start nonempty more lowWithin
      omega
  · exact fun less => startOf_lt segments start nonempty less highWithin

theorem startOf_inj (segments : List Bytes) (start : Nat)
    (nonempty : ∀ segment ∈ segments, segment ≠ []) {left right : Nat}
    (leftWithin : left ≤ segments.length) (rightWithin : right ≤ segments.length) :
    startOf segments start left = startOf segments start right ↔ left = right := by
  have forward := startOf_lt_iff segments start nonempty leftWithin rightWithin
  have backward := startOf_lt_iff segments start nonempty rightWithin leftWithin
  omega

/-- A copy of segment `index`. -/
structure CopyOf (segments : List Bytes) (start index : Nat) (packet : TCPPacket) : Prop where
  found : segments[index]? = some packet.payload
  placed : packet.sequenceNumber = startOf segments start index

theorem CopyOf.within {segments : List Bytes} {start index : Nat} {packet : TCPPacket}
    (copy : CopyOf segments start index packet) : index < segments.length :=
  (List.getElem?_eq_some_iff.mp copy.found).1

/-- The first `count` segments are out, each once and in order, and of the rest exactly
those that arrived are held. -/
structure Frontier (segments : List Bytes) (start : Nat) (arrived : Nat → Prop)
    (session : StreamState) (out : List TimestampedChunk) (count : Nat) : Prop where
  within : count ≤ segments.length
  expected : session.expectedSequence = startOf segments start count
  delivered : out.map TimestampedChunk.data = segments.take count
  all : ∀ index < count, arrived index
  held : ∀ index, count ≤ index → index < segments.length →
    (arrived index ↔
      (session.bufferedSegments.get? (startOf segments start index)).isSome)
  known : ∀ seq chunk, session.bufferedSegments.get? seq = some chunk →
    ∃ index, count ≤ index ∧ segments[index]? = some chunk.data ∧
      seq = startOf segments start index

theorem frontier_start (segments : List Bytes) (start : Nat) :
    Frontier segments start (fun _ => False) { expectedSequence := start } [] 0 :=
  ⟨Nat.zero_le _, rfl, rfl, fun _ less => absurd less (Nat.not_lt_zero _),
    fun _ _ _ => by simp [OrderedDict.get?_empty], fun _ _ found => by cases found⟩

section

variable {segments : List Bytes} {start : Nat} {arrived : Nat → Prop} {session : StreamState}
  {out : List TimestampedChunk} {count : Nat}

theorem Frontier.congr (inv : Frontier segments start arrived session out count)
    {arrived' : Nat → Prop} (same : ∀ index, arrived index ↔ arrived' index) :
    Frontier segments start arrived' session out count := by
  have equal : arrived = arrived' := funext fun index => propext (same index)
  rwa [← equal]

/-- Popping the segment at the frontier moves the frontier past it. -/
theorem Frontier.pop (nonempty : ∀ segment ∈ segments, segment ≠ [])
    (inv : Frontier segments start arrived session out count)
    {chunk : TimestampedChunk} {next : StreamState}
    (popped : flushStep session = some (chunk, next)) :
    Frontier segments start arrived next (out ++ [chunk]) (count + 1) := by
  obtain ⟨heldHere, erased, moved⟩ := flushStep_eq_some popped
  obtain ⟨index, above, found, placed⟩ := inv.known _ _ heldHere
  have within := (List.getElem?_eq_some_iff.mp found).1
  have here : index = count := (startOf_inj segments start nonempty (by omega) inv.within).mp
    (by rw [← placed, inv.expected])
  subst here
  have apart : ∀ later, index < later → later < segments.length →
      startOf segments start later ≠ startOf segments start index := by
    intro later above within'
    have := startOf_lt segments start nonempty above (by omega)
    omega
  refine ⟨within, ?_, ?_, ?_, ?_, ?_⟩
  · rw [moved, inv.expected, startOf_succ segments start index _ found]
  · rw [List.map_append, inv.delivered, List.take_add_one, found]
    rfl
  · intro earlier less
    by_cases same : earlier = index
    · rw [same, inv.held index (Nat.le_refl _) within, ← inv.expected, heldHere]
      rfl
    · exact inv.all earlier (by omega)
  · intro later above within'
    rw [inv.held later (by omega) within', erased, inv.expected,
      OrderedDict.get?_erase_of_ne _ (apart later above within')]
  · intro seq kept keptFound
    rw [erased, OrderedDict.get?_erase] at keptFound
    split at keptFound
    · cases keptFound
    · rename_i moved'
      obtain ⟨other, above', found', placed'⟩ := inv.known seq kept keptFound
      refine ⟨other, ?_, found', placed'⟩
      have : other ≠ index := by
        rintro rfl
        exact moved' (by rw [placed', inv.expected])
      omega

theorem flushLoop_frontier (nonempty : ∀ segment ∈ segments, segment ≠ []) (turns : Nat)
    (session : StreamState) (out : List TimestampedChunk) (count : Nat)
    (inv : Frontier segments start arrived session out count) :
    ∃ reached, Frontier segments start arrived (flushLoop turns session).1
      (out ++ (flushLoop turns session).2) reached := by
  induction turns generalizing session out count with
  | zero => exact ⟨count, by simpa only [flushLoop, List.append_nil] using inv⟩
  | succ turns ih =>
      simp only [flushLoop]
      split
      · exact ⟨count, by simpa only [List.append_nil] using inv⟩
      · rename_i chunk next popped
        obtain ⟨reached, after⟩ := ih next (out ++ [chunk]) (count + 1) (inv.pop nonempty popped)
        exact ⟨reached, by simpa only [List.append_assoc, List.singleton_append] using after⟩

/-- A copy of a segment that is not due yet is held. -/
theorem Frontier.holds (inv : Frontier segments start arrived session out count)
    (nonempty : ∀ segment ∈ segments, segment ≠ []) {packet : TCPPacket} {index : Nat}
    (copy : CopyOf segments start index packet) (early : count < index) :
    Frontier segments start (fun other => arrived other ∨ other = index)
      { session with
        bufferedSegments := session.bufferedSegments.set packet.sequenceNumber
          ⟨packet.timestamp, packet.payload⟩ } out count where
  within := inv.within
  expected := inv.expected
  delivered := inv.delivered
  all other less := Or.inl (inv.all other less)
  held other above within' := by
    have within := copy.within
    rw [copy.placed, OrderedDict.get?_set]
    by_cases same : other = index
    · simp only [same, or_true, ↓reduceIte, Option.isSome_some]
    · have moved : startOf segments start other ≠ startOf segments start index := by
        rw [ne_eq, startOf_inj segments start nonempty (by omega) (by omega)]
        exact same
      simp only [same, or_false, moved, ↓reduceIte]
      exact inv.held other above within'
  known seq chunk found := by
    rw [OrderedDict.get?_set] at found
    split at found
    · rename_i same
      cases found
      exact ⟨index, by omega, copy.found, by rw [same, copy.placed]⟩
    · exact inv.known seq chunk found

/-- The segment that is due is put out. -/
theorem Frontier.advances (inv : Frontier segments start arrived session out count)
    (rest : flushStep session = none) {chunk : TimestampedChunk}
    (found : segments[count]? = some chunk.data) :
    Frontier segments start (fun other => arrived other ∨ other = count)
      { session with expectedSequence := session.expectedSequence + chunk.data.length }
      (out ++ [chunk]) (count + 1) where
  within := (List.getElem?_eq_some_iff.mp found).1
  expected := by rw [startOf_succ segments start count _ found, inv.expected]
  delivered := by
    rw [List.map_append, inv.delivered, List.take_add_one, found]
    rfl
  all other less := by
    by_cases same : other = count
    · exact Or.inr same
    · exact Or.inl (inv.all other (by omega))
  held other above within' := by
    have apart : other ≠ count := by omega
    simp only [apart, or_false]
    exact inv.held other (by omega) within'
  known seq waiting buffered := by
    obtain ⟨other, above, foundAt, placed⟩ := inv.known seq waiting buffered
    refine ⟨other, ?_, foundAt, placed⟩
    have apart : other ≠ count := by
      rintro rfl
      rw [flushStep_eq_none, inv.expected, ← placed, buffered] at rest
      cases rest
    omega

/-- One more arrival keeps the frontier exact, and the loop guard false again. -/
theorem handlePacket_frontier (positive : 0 < start)
    (nonempty : ∀ segment ∈ segments, segment ≠ [])
    (inv : Frontier segments start arrived session out count)
    (rest : flushStep session = none) {packet : TCPPacket} {index : Nat}
    (copy : CopyOf segments start index packet) :
    ∃ reached, Frontier segments start (fun other => arrived other ∨ other = index)
        (handlePacket session packet).1 (out ++ (handlePacket session packet).2) reached ∧
      flushStep (handlePacket session packet).1 = none := by
  have begun : session.expectedSequence ≠ 0 := by
    rw [inv.expected, startOf]
    omega
  have within := copy.within
  have compare := startOf_lt_iff segments start nonempty (Nat.le_of_lt within) inv.within
  have compare' := startOf_lt_iff segments start nonempty inv.within (Nat.le_of_lt within)
  have handled := handlePacket_cases session packet begun
  generalize handlePacket session packet = result at handled ⊢
  cases handled with
  | below old =>
      rw [copy.placed, inv.expected, compare] at old
      have seen := inv.all index old
      refine ⟨count, ?_, rest⟩
      rw [List.append_nil]
      exact inv.congr fun other =>
        ⟨Or.inl, fun either => either.elim id (fun same => same ▸ seen)⟩
  | ahead early =>
      rw [copy.placed, inv.expected, compare'] at early
      have apart : startOf segments start count ≠ startOf segments start index := by
        have := compare'.mpr early
        omega
      refine ⟨count, ?_, ?_⟩
      · rw [List.append_nil]
        exact inv.holds nonempty copy early
      · rw [flushStep_eq_none] at rest ⊢
        simp only [inv.expected] at rest ⊢
        rw [copy.placed, OrderedDict.get?_set_of_ne _ _ apart, rest]
  | empty next blank =>
      exact absurd blank (nonempty _ (List.mem_of_getElem? copy.found))
  | next next full =>
      have here : index = count :=
        (startOf_inj segments start nonempty (by omega) inv.within).mp
          (by rw [← copy.placed, next, inv.expected])
      subst here
      have due : segments[index]? =
          some (TimestampedChunk.mk packet.timestamp packet.payload).data := copy.found
      have stepped : Frontier segments start (fun other => arrived other ∨ other = index)
          { session with
            expectedSequence := session.expectedSequence + packet.payload.length }
          (out ++ [⟨packet.timestamp, packet.payload⟩]) (index + 1) :=
        inv.advances rest due
      obtain ⟨reached, after⟩ := flushLoop_frontier nonempty _ _ _ _ stepped
      rw [List.append_assoc, List.singleton_append] at after
      exact ⟨reached, after, flushBuffer_done _⟩

theorem CopyOf.unique (nonempty : ∀ segment ∈ segments, segment ≠ []) {packet : TCPPacket}
    {index other : Nat} (copy : CopyOf segments start index packet) :
    CopyOf segments start other packet ↔ other = index := by
  constructor
  · intro second
    exact (startOf_inj segments start nonempty (Nat.le_of_lt second.within)
      (Nat.le_of_lt copy.within)).mp (by rw [← second.placed, copy.placed])
  · rintro rfl
    exact copy

theorem handlePackets_frontier (positive : 0 < start)
    (nonempty : ∀ segment ∈ segments, segment ≠ []) (packets : List TCPPacket)
    (drawn : ∀ packet ∈ packets, ∃ index, CopyOf segments start index packet)
    (arrived : Nat → Prop) (session : StreamState) (out : List TimestampedChunk) (count : Nat)
    (inv : Frontier segments start arrived session out count)
    (rest : flushStep session = none) :
    ∃ reached, Frontier segments start
        (fun index => arrived index ∨ ∃ packet ∈ packets, CopyOf segments start index packet)
        (handlePackets session packets).1
        (out ++ (handlePackets session packets).2.flatten) reached ∧
      flushStep (handlePackets session packets).1 = none := by
  induction packets generalizing arrived session out count with
  | nil =>
      refine ⟨count, ?_, rest⟩
      simpa [handlePackets] using inv
  | cons packet later ih =>
      obtain ⟨index, copy⟩ := drawn packet (List.mem_cons_self ..)
      obtain ⟨reached, stepped, rest'⟩ := handlePacket_frontier positive nonempty inv rest copy
      obtain ⟨final, after, rest''⟩ := ih
        (fun other member => drawn other (List.mem_cons_of_mem _ member)) _ _ _ _ stepped rest'
      refine ⟨final, ?_, rest''⟩
      simp only [handlePackets, List.flatten_cons, ← List.append_assoc]
      apply after.congr
      intro other
      simp only [List.exists_mem_cons_iff, ← copy.unique nonempty, or_assoc]

end

/-- All packets travel between the same endpoints the same way. -/
def OneDirection (packets : List TCPPacket) : Prop :=
  ∃ srcIp srcPort dstIp dstPort, ∀ packet ∈ packets, packet.srcIp = srcIp ∧
    packet.srcPort = srcPort ∧ packet.dstIp = dstIp ∧ packet.dstPort = dstPort

theorem OneDirection.sameKey {packet : TCPPacket} {rest : List TCPPacket}
    (oneDirection : OneDirection (packet :: rest)) :
    ∀ other ∈ packet :: rest, packetKey other = packetKey packet := by
  obtain ⟨srcIp, srcPort, dstIp, dstPort, same⟩ := oneDirection
  intro other member
  obtain ⟨a, b, c, d⟩ := same other member
  obtain ⟨a', b', c', d'⟩ := same packet (List.mem_cons_self ..)
  simp only [packetKey, a, b, c, d, a', b', c', d']

/-- A fresh reassembler expects the first packet of the direction it is given. -/
theorem OneDirection.processPackets_fresh {first : TCPPacket} {rest : List TCPPacket}
    (oneDirection : OneDirection (first :: rest)) :
    (processPackets fresh (first :: rest)).2 =
      (handlePackets { expectedSequence := first.sequenceNumber } (first :: rest)).2 := by
  have agree := (processPackets_sameKey fresh (packetKey first) (first :: rest)
    oneDirection.sameKey).2
  have sentinel : handlePackets {} (first :: rest) =
      handlePackets { expectedSequence := first.sequenceNumber } (first :: rest) := by
    simp only [handlePackets, handlePacket_first]
  rw [agree, streamOf_fresh, sentinel]

/-- After any arrivals that begin with the first segment, the chunks yielded are exactly the
longest run of segments that have all arrived, and the loop of every call ends. -/
theorem yields_longest_run (segments : List Bytes) (start : Nat) (positive : 0 < start)
    (nonempty : ∀ segment ∈ segments, segment ≠ []) (first : TCPPacket) (rest : List TCPPacket)
    (oneDirection : OneDirection (first :: rest)) (begins : CopyOf segments start 0 first)
    (drawn : ∀ packet ∈ rest, ∃ index, CopyOf segments start index packet) :
    (∃ count ≤ segments.length,
      (∀ index < count, ∃ packet ∈ first :: rest, CopyOf segments start index packet) ∧
      (count < segments.length →
        ¬ ∃ packet ∈ first :: rest, CopyOf segments start count packet) ∧
      (processPackets fresh (first :: rest)).2.flatten.map TimestampedChunk.data =
        segments.take count ∧
      yielded (processPackets fresh (first :: rest)).2.flatten =
        (segments.take count).flatten) ∧
    ∀ session : StreamState, ∃ turns ≤ session.bufferedSegments.length,
      flushStep (flushLoop turns session).1 = none := by
  refine ⟨?_, fun session => ⟨_, Nat.le_refl _, flushBuffer_done session⟩⟩
  obtain ⟨count, inv, guardFalse⟩ := handlePackets_frontier positive nonempty (first :: rest)
    (List.forall_mem_cons.mpr ⟨⟨0, begins⟩, drawn⟩) _ _ _ _ (frontier_start segments start) rfl
  have placed : first.sequenceNumber = start := begins.placed
  rw [oneDirection.processPackets_fresh, placed]
  simp only [List.nil_append, false_or] at inv
  refine ⟨count, inv.within, inv.all, ?_, inv.delivered, ?_⟩
  · intro less
    rw [inv.held count (Nat.le_refl _) less, ← inv.expected, (flushStep_eq_none _).mp guardFalse]
    simp
  · rw [← inv.delivered]
    exact List.flatMap_def

/-- The third segment waits for the second, which arrives twice. -/
theorem yields_longest_run_of_three :
    let packets := [samplePacket 100 [1, 2], samplePacket 103 [4, 5], samplePacket 102 [3],
      samplePacket 102 [3]]
    (∃ count ≤ [[1, 2], [3], [4, 5]].length,
      (∀ index < count, ∃ packet ∈ packets, CopyOf [[1, 2], [3], [4, 5]] 100 index packet) ∧
      (count < [[1, 2], [3], [4, 5]].length →
        ¬ ∃ packet ∈ packets, CopyOf [[1, 2], [3], [4, 5]] 100 count packet) ∧
      (processPackets fresh packets).2.flatten.map TimestampedChunk.data =
        [[1, 2], [3], [4, 5]].take count ∧
      yielded (processPackets fresh packets).2.flatten =
        ([[1, 2], [3], [4, 5]].take count).flatten) ∧
    ∀ session : StreamState, ∃ turns ≤ session.bufferedSegments.length,
      flushStep (flushLoop turns session).1 = none :=
  yields_longest_run [[1, 2], [3], [4, 5]] 100 (by decide) (by decide) (samplePacket 100 [1, 2])
    [samplePacket 103 [4, 5], samplePacket 102 [3], samplePacket 102 [3]]
    ⟨"10.0.0.1", 1234, "10.0.0.2", 80, by decide⟩ ⟨rfl, rfl⟩ (by
      simp only [List.forall_mem_cons, List.not_mem_nil, false_implies, implies_true, and_true]
      exact ⟨⟨2, rfl, rfl⟩, ⟨1, rfl, rfl⟩, ⟨1, rfl, rfl⟩⟩)

end SignalForge.TcpReassembler
