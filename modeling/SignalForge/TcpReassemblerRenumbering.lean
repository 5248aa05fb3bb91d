import SignalForge.TcpReassemblerReuse

/-! Where a connection's sequence numbers begin. They are compared as plain integers, so only
a change that wraps every number alike goes unnoticed. -/

set_option autoImplicit false

namespace SignalForge.TcpReassembler

/-- The packet of a connection whose initial number lies `offset` higher, modulo `2 ^ 32`. -/
def renumber (offset : Nat) (packet : TCPPacket) : TCPPacket :=
  { packet with sequenceNumber := (packet.sequenceNumber + offset) % 2 ^ 32 }

/-- What waits in one run waits in the other, `up` higher and `down` lower. -/
def Shifted (up down : Nat) (waiting moved : Waiting) : Prop :=
  ∀ seq seq', seq' + down = seq + up → moved seq' = waiting seq

theorem Released.shift {up down : Nat} {waiting moved : Waiting} {position last : Nat}
    {chunks : List TimestampedChunk} (shifted : Shifted up down waiting moved)
    (released : Released waiting position chunks last) {position' : Nat}
    (place : position' + down = position + up) :
    ∃ last', Released moved position' chunks last' ∧ last' + down = last + up := by
  induction released generalizing position' with
  | stop absent => exact ⟨_, .stop (by rw [shifted _ _ place, absent]), place⟩
  | blank found empty => exact ⟨_, .blank (by rw [shifted _ _ place, found]) empty, place⟩
  | @more position last chunk chunks found full rest ih =>
      obtain ⟨last', released, ends⟩ :=
        @ih (position' + chunk.data.length) (by omega)
      exact ⟨last', .more (by rw [shifted _ _ place, found]) full released, ends⟩

theorem Released.unique {waiting : Waiting} {position last last' : Nat}
    {chunks chunks' : List TimestampedChunk} (released : Released waiting position chunks last)
    (released' : Released waiting position chunks' last') : chunks = chunks' ∧ last = last' := by
  have same := released.same_iff released' fun _ => Or.inl rfl
  exact ⟨same.1.mpr rfl, same.2 rfl⟩

theorem Shifted.arrive {up down : Nat} {waiting moved : Waiting}
    (shifted : Shifted up down waiting moved) {packet packet' : TCPPacket}
    (number : packet'.sequenceNumber + down = packet.sequenceNumber + up)
    (chunk : chunkOf packet' = chunkOf packet) :
    Shifted up down (arrive waiting packet) (arrive moved packet') := by
  intro seq seq' place
  unfold TcpReassembler.arrive
  by_cases here : packet.sequenceNumber = seq
  · have here' : packet'.sequenceNumber = seq' := by omega
    rw [if_pos here, if_pos here', chunk]
  · have apart : packet'.sequenceNumber ≠ seq' := by omega
    rw [if_neg here, if_neg apart]
    exact shifted seq seq' place

/-- One packet in two sessions whose numbers differ by the shift. -/
theorem handlePacket_shifted {up down : Nat} {waiting moved : Waiting}
    {session session' : StreamState} (inv : Holding waiting session)
    (inv' : Holding moved session') (shifted : Shifted up down waiting moved)
    {packet packet' : TCPPacket}
    (number : packet'.sequenceNumber + down = packet.sequenceNumber + up)
    (chunk : chunkOf packet' = chunkOf packet)
    (opened : openedAt session'.expectedSequence packet' + down =
      openedAt session.expectedSequence packet + up) :
    (handlePacket session' packet').2 = (handlePacket session packet).2 ∧
      (handlePacket session' packet').1.expectedSequence + down =
        (handlePacket session packet).1.expectedSequence + up := by
  have payload : packet'.payload = packet.payload := congrArg TimestampedChunk.data chunk
  have sameNext : Next session'.expectedSequence packet' ↔
      Next session.expectedSequence packet := by
    unfold Next
    rw [payload]
    exact and_congr_left fun _ => ⟨fun starts => by omega, fun starts => by omega⟩
  by_cases next : Next session.expectedSequence packet
  · obtain ⟨chunks, call, released⟩ := handlePacket_next inv next
    obtain ⟨chunks', call', released'⟩ := handlePacket_next inv' (sameNext.mpr next)
    have place : packet'.sequenceNumber + packet'.payload.length + down =
        packet.sequenceNumber + packet.payload.length + up := by
      rw [payload]
      omega
    obtain ⟨last, moved', ends⟩ := released.shift shifted place
    have same := released'.unique moved'
    exact ⟨by rw [call, call', same.1, chunk], by rw [same.2, ends]⟩
  · have quiet := handlePacket_quiet session packet next
    have quiet' := handlePacket_quiet session' packet' fun other => next (sameNext.mp other)
    exact ⟨by rw [quiet.1, quiet'.1], by rw [quiet.2, quiet'.2, opened]⟩

theorem handlePacket_begins (first : TCPPacket) (opening : unopening first = false) :
    (handlePacket {} first).1.expectedSequence ≠ 0 := by
  by_cases next : Next ({} : StreamState).expectedSequence first
  · obtain ⟨chunks, call, released⟩ := handlePacket_next holding_fresh next
    have positive := List.length_pos_iff.mpr next.2
    have reached := released.le
    omega
  · rw [(handlePacket_quiet {} first next).2]
    intro zero
    change first.sequenceNumber = 0 at zero
    have empty : first.payload = [] := by
      by_contra full
      exact next ⟨rfl, full⟩
    rw [(unopening_iff first).mpr ⟨zero, empty⟩] at opening
    cases opening

section

variable {offset laps : Nat}

/-- The number wraps `laps` times. -/
def Wraps (offset laps : Nat) (packet : TCPPacket) : Prop :=
  (packet.sequenceNumber + offset) / 2 ^ 32 = laps

theorem Wraps.number {packet : TCPPacket} (wraps : Wraps offset laps packet) :
    (renumber offset packet).sequenceNumber + laps * 2 ^ 32 = packet.sequenceNumber + offset := by
  unfold Wraps at wraps
  change (packet.sequenceNumber + offset) % 2 ^ 32 + laps * 2 ^ 32 = _
  omega

/-- Once both runs have begun, each packet yields the same in both. -/
theorem handlePackets_shifted (packets : List TCPPacket)
    (wraps : ∀ packet ∈ packets, Wraps offset laps packet) {waiting moved : Waiting}
    {session session' : StreamState} (inv : Holding waiting session)
    (inv' : Holding moved session') (shifted : Shifted offset (laps * 2 ^ 32) waiting moved)
    (begun : session.expectedSequence ≠ 0) (begun' : session'.expectedSequence ≠ 0)
    (place : session'.expectedSequence + laps * 2 ^ 32 = session.expectedSequence + offset) :
    (handlePackets session' (packets.map (renumber offset))).2 =
      (handlePackets session packets).2 := by
  induction packets generalizing waiting moved session session' with
  | nil => rfl
  | cons packet rest ih =>
      have number := (wraps packet (List.mem_cons_self ..)).number
      have step := handlePacket_shifted inv inv' shifted number rfl (by
        rw [openedAt_of_begun _ begun, openedAt_of_begun _ begun', place])
      have grows := inv.expected_le packet
      have grows' := inv'.expected_le (renumber offset packet)
      simp only [List.map_cons, handlePackets, step.1, List.cons.injEq, true_and]
      exact ih (fun other member => wraps other (List.mem_cons_of_mem _ member))
        (inv.handlePacket packet) (inv'.handlePacket _) (shifted.arrive number rfl)
        (by omega) (by omega) step.2

end

/-- Moving a connection's initial number, so that no packet's number wraps relative to
another's and neither run begins with an empty packet numbered 0, changes nothing that any
packet yields. -/
theorem yields_renumbered (offset laps : Nat) (packets : List TCPPacket) (key : SessionKey)
    (sameKey : ∀ packet ∈ packets, packetKey packet = key)
    (wraps : ∀ packet ∈ packets, Wraps offset laps packet)
    (opening : ∀ first ∈ packets.head?,
      unopening first = false ∧ unopening (renumber offset first) = false) :
    (processPackets fresh (packets.map (renumber offset))).2 =
      (processPackets fresh packets).2 := by
  have sameKey' : ∀ packet ∈ packets.map (renumber offset), packetKey packet = key := by
    intro packet member
    obtain ⟨original, known, rfl⟩ := List.mem_map.mp member
    exact sameKey original known
  rw [(processPackets_sameKey fresh key _ sameKey').2,
    (processPackets_sameKey fresh key _ sameKey).2, streamOf_fresh]
  cases packets with
  | nil => rfl
  | cons first rest =>
      obtain ⟨opens, opens'⟩ := opening first rfl
      have number := (wraps first (List.mem_cons_self ..)).number
      have nothing : Shifted offset (laps * 2 ^ 32) idle idle := fun _ _ _ => rfl
      have step := handlePacket_shifted holding_fresh holding_fresh nothing number rfl number
      simp only [List.map_cons, handlePackets, step.1, List.cons.injEq, true_and]
      exact handlePackets_shifted rest
        (fun other member => wraps other (List.mem_cons_of_mem _ member))
        (holding_fresh.handlePacket first) (holding_fresh.handlePacket _)
        (nothing.arrive number rfl) (handlePacket_begins first opens)
        (handlePacket_begins _ opens') step.2

/-- A stream that starts at 0, one packet ahead of its turn. -/
def sampleFromZero : List TCPPacket :=
  [samplePacket 0 [1], samplePacket 2 [3], samplePacket 1 [2]]

theorem yields_renumbered_from_zero :
    (processPackets fresh (sampleFromZero.map (renumber (2 ^ 32 + 7)))).2 =
      (processPackets fresh sampleFromZero).2 :=
  yields_renumbered (2 ^ 32 + 7) 1 sampleFromZero (packetKey (samplePacket 0 [1]))
    (by decide) (by unfold Wraps; decide) (by decide)

/-- The second number wraps and the first does not: the segment is taken for an old one. -/
theorem wrapped_segment_dropped :
    let packets := [samplePacket 100 [1, 2], samplePacket 102 [3]]
    let offset := 2 ^ 32 - 102
    OneDirection packets ∧
      (processPackets fresh packets).2.map yielded = [[1, 2], [3]] ∧
      (packets.map (renumber offset)).map TCPPacket.sequenceNumber = [2 ^ 32 - 2, 0] ∧
      (processPackets fresh (packets.map (renumber offset))).2.map yielded = [[1, 2], []] :=
  ⟨⟨"10.0.0.1", 1234, "10.0.0.2", 80, by decide⟩, by decide, by decide, by decide⟩

end SignalForge.TcpReassembler
