import SignalForge.MessageDecoderFraming
import SignalForge.TcpReassemblerWaiting

/-! When a segment that is delivered again keeps the time it was first observed at. -/

set_option autoImplicit false

namespace SignalForge.TcpReassembler

open MessageDecoder (byteTimes feedAll)

/-- The first of the packets that starts at a sequence number. -/
def firstCopy (packets : List TCPPacket) (seq : Nat) : Option TCPPacket :=
  packets.find? fun packet => packet.sequenceNumber = seq

/-- A byte of the stream lies in a segment first delivered at a time. -/
def FirstSeen (segments : List Bytes) (start : Nat) (packets : List TCPPacket) (offset : Nat)
    (time : Datetime) : Prop :=
  ∃ index packet, startOf segments start index ≤ start + offset ∧
    start + offset < startOf segments start (index + 1) ∧
    firstCopy packets (startOf segments start index) = some packet ∧ packet.timestamp = time

/-- Every chunk, and so every byte and every message, has the time of the first packet that
delivered the segment it begins in. -/
structure ObservedOnArrival (segments : List Bytes) (start : Nat) (packets : List TCPPacket)
    (out : List TimestampedChunk) : Prop where
  chunks : ∀ index chunk, out[index]? = some chunk →
    ∃ packet, firstCopy packets (startOf segments start index) = some packet ∧
      CopyOf segments start index packet ∧ chunk = chunkOf packet
  bytes : ∀ offset time, (byteTimes out)[offset]? = some time →
    FirstSeen segments start packets offset time
  messages : ∀ messages decoder remainder, feedAll {} out = ⟨messages, .ok decoder⟩ →
    decoder.flush = .ok (remainder, {}) →
    ∀ before message after, messages ++ remainder.toList = before ++ message :: after →
      FirstSeen segments start packets (before.flatMap TimestampedMessage.data).length
        message.timestamp

/-- A segment and all before it have arrived. -/
def ArrivedTo (segments : List Bytes) (start : Nat) (packets : List TCPPacket) (index : Nat) :
    Prop :=
  ∀ earlier ≤ index, ∃ packet ∈ packets, CopyOf segments start earlier packet

/-- With this packet a segment and all before it have arrived. -/
structure LetsOut (segments : List Bytes) (start : Nat) (before : List TCPPacket)
    (packet : TCPPacket) (index : Nat) : Prop where
  complete : ArrivedTo segments start (before ++ [packet]) index
  waited : ¬ ArrivedTo segments start before index

/-- When a segment is let out, the last of its copies so far has the time of the first. -/
def WaitsUnmoved (segments : List Bytes) (start : Nat) (packets : List TCPPacket) : Prop :=
  ∀ before packet after index, packets = before ++ packet :: after →
    LetsOut segments start before packet index →
    (lastCopy (before ++ [packet]) (startOf segments start index)).map TCPPacket.timestamp =
      (firstCopy packets (startOf segments start index)).map TCPPacket.timestamp

section

variable {segments : List Bytes} {start : Nat}

theorem ArrivedTo.mono {packets : List TCPPacket} {index : Nat}
    (arrived : ArrivedTo segments start packets index) {more : List TCPPacket}
    (subset : packets ⊆ more) : ArrivedTo segments start more index := by
  intro earlier within
  obtain ⟨packet, member, copy⟩ := arrived earlier within
  exact ⟨packet, subset member, copy⟩

/-- A segment is let out once. -/
theorem LetsOut.unique {packets before before' after after' : List TCPPacket}
    {packet packet' : TCPPacket} {index : Nat} (letsOut : LetsOut segments start before packet index)
    (letsOut' : LetsOut segments start before' packet' index)
    (split : packets = before ++ packet :: after) (split' : packets = before' ++ packet' :: after') :
    before = before' ∧ packet = packet' := by
  have notShorter {before before' after after' : List TCPPacket} {packet packet' : TCPPacket}
      (letsOut : LetsOut segments start before packet index)
      (letsOut' : LetsOut segments start before' packet' index)
      (split : packets = before ++ packet :: after)
      (split' : packets = before' ++ packet' :: after') : ¬ before.length < before'.length := by
    intro shorter
    have front : before ++ [packet] <+: packets := ⟨after, by
      rw [split, List.append_assoc, List.singleton_append]⟩
    have front' : before' <+: packets := ⟨packet' :: after', split'.symm⟩
    have inside : before ++ [packet] <+: before' :=
      List.prefix_of_prefix_length_le front front' (by
        rw [List.length_append, List.length_singleton]
        omega)
    exact letsOut'.waited (letsOut.complete.mono inside.subset)
  have shorter := notShorter letsOut letsOut' split split'
  have longer := notShorter letsOut' letsOut split' split
  have same := List.append_inj (split.symm.trans split') (by omega)
  exact ⟨same.1, (List.cons.inj same.2).1⟩

/-- The chunks are the segments in a row from one on. -/
def InARow (segments : List Bytes) (base : Nat) (chunks : List TimestampedChunk) : Prop :=
  ∀ index chunk, chunks[index]? = some chunk → segments[base + index]? = some chunk.data

theorem InARow.first {base : Nat} {chunk : TimestampedChunk} {rest : List TimestampedChunk}
    (row : InARow segments base (chunk :: rest)) : segments[base]? = some chunk.data :=
  row 0 chunk rfl

theorem InARow.rest {base : Nat} {chunk : TimestampedChunk} {rest : List TimestampedChunk}
    (row : InARow segments base (chunk :: rest)) : InARow segments (base + 1) rest := by
  intro index later found
  rw [Nat.add_right_comm, Nat.add_assoc]
  exact row (index + 1) later found

theorem InARow.behind {base : Nat} {front back : List TimestampedChunk}
    (row : InARow segments base (front ++ back)) :
    InARow segments (base + front.length) back := by
  intro index chunk found
  rw [Nat.add_assoc]
  apply row
  rw [List.getElem?_append_right (Nat.le_add_right _ _), Nat.add_sub_cancel_left, found]

/-- What is released from the start of a segment on is what waits at the start of each. -/
theorem Released.lookup {waiting : Waiting} {position last : Nat} {chunks : List TimestampedChunk}
    (released : Released waiting position chunks last) {count : Nat}
    (here : position = startOf segments start count) (row : InARow segments count chunks)
    {ahead : Nat} {chunk : TimestampedChunk} (found : chunks[ahead]? = some chunk) :
    waiting (startOf segments start (count + ahead)) = some chunk := by
  induction released generalizing count ahead with
  | stop => cases found
  | blank waits =>
      cases ahead with
      | zero =>
          cases found
          rw [Nat.add_zero, ← here, waits]
      | succ ahead => cases found
  | more waits full rest ih =>
      cases ahead with
      | zero =>
          cases found
          rw [Nat.add_zero, ← here, waits]
      | succ ahead =>
          rw [← Nat.add_assoc, Nat.add_right_comm]
          refine ih ?_ row.rest found
          rw [here, startOf_succ segments start count _ row.first]

/-- The segments that are out are those that have arrived with all before them. -/
theorem Frontier.arrivedTo_iff {packets : List TCPPacket} {session : StreamState}
    {out : List TimestampedChunk} {count : Nat}
    (inv : Frontier segments start
      (fun index => ∃ packet ∈ packets, CopyOf segments start index packet) session out count)
    (rest : flushStep session = none) {index : Nat} :
    ArrivedTo segments start packets index ↔ index < count := by
  constructor
  · intro arrived
    by_contra notOut
    obtain ⟨packet, member, copy⟩ := arrived count (by omega)
    have waits := (inv.held count (Nat.le_refl _) copy.within).mp ⟨packet, member, copy⟩
    rw [← inv.expected, (flushStep_eq_none _).mp rest] at waits
    cases waits
  · intro isOut earlier within
    exact inv.all earlier (by omega)

theorem Frontier.length_out {arrived : Nat → Prop} {session : StreamState}
    {out : List TimestampedChunk} {count : Nat}
    (inv : Frontier segments start arrived session out count) : out.length = count := by
  have lengths := congrArg List.length inv.delivered
  rwa [List.length_map, List.length_take, Nat.min_eq_left inv.within] at lengths

theorem Frontier.inARow {arrived : Nat → Prop} {session : StreamState}
    {out : List TimestampedChunk} {count : Nat}
    (inv : Frontier segments start arrived session out count) : InARow segments 0 out := by
  intro index chunk found
  have within : index < count := by
    rw [← inv.length_out]
    exact (List.getElem?_eq_some_iff.mp found).1
  have delivered : (out.map TimestampedChunk.data)[index]? = (segments.take count)[index]? := by
    rw [inv.delivered]
  rw [List.getElem?_map, found, List.getElem?_take_of_lt within] at delivered
  rw [Nat.zero_add]
  exact delivered.symm

theorem waitingAfter_idle (packets : List TCPPacket) (seq : Nat) :
    waitingAfter idle packets seq = (lastCopy packets seq).map chunkOf := Option.or_none

/-- After some arrivals each chunk that is out is the last copy of its segment from when it was
let out. -/
structure Dated (segments : List Bytes) (start : Nat) (packets : List TCPPacket)
    (session : StreamState) (out : List TimestampedChunk) (count : Nat) : Prop where
  frontier : Frontier segments start
    (fun index => ∃ packet ∈ packets, CopyOf segments start index packet) session out count
  rest : flushStep session = none
  holding : Holding (waitingAfter idle packets) session
  released : ∀ index chunk, out[index]? = some chunk → ∃ before packet after,
    packets = before ++ packet :: after ∧ LetsOut segments start before packet index ∧
      waitingAfter idle (before ++ [packet]) (startOf segments start index) = some chunk

/-- What one arrival puts out is what waits then. -/
theorem Dated.lookup {packets : List TCPPacket} {session : StreamState}
    {out : List TimestampedChunk} {count : Nat}
    (dated : Dated segments start packets session out count) (positive : 0 < start)
    (nonempty : ∀ segment ∈ segments, segment ≠ []) {packet : TCPPacket}
    (row : InARow segments count (handlePacket session packet).2) {ahead : Nat}
    {chunk : TimestampedChunk} (found : (handlePacket session packet).2[ahead]? = some chunk) :
    waitingAfter idle (packets ++ [packet]) (startOf segments start (count + ahead)) =
      some chunk := by
  rw [waitingAfter_snoc]
  by_cases isNext : Next session.expectedSequence packet
  · obtain ⟨chunks, call, released⟩ := handlePacket_next dated.holding isNext
    have begun : session.expectedSequence ≠ 0 := by
      rw [dated.frontier.expected, startOf]
      omega
    have here : packet.sequenceNumber = startOf segments start count := by
      rw [isNext.1, openedAt_of_begun packet begun, dated.frontier.expected]
    rw [call] at row found
    have within := (List.getElem?_eq_some_iff.mp (row ahead chunk found)).1
    cases ahead with
    | zero =>
        cases found
        simp only [arrive, here, Nat.add_zero, ↓reduceIte]
    | succ ahead =>
        have apart := startOf_lt segments start nonempty
          (show count < count + (ahead + 1) by omega) (Nat.le_of_lt within)
        rw [arrive_of_ne _ (by omega), ← Nat.add_assoc, Nat.add_right_comm]
        refine released.lookup ?_ row.rest found
        rw [here, startOf_succ segments start count _ row.first]
        rfl
  · rw [(handlePacket_quiet session packet isNext).1] at found
    cases found

theorem Dated.step {packets : List TCPPacket} {session : StreamState}
    {out : List TimestampedChunk} {count : Nat}
    (dated : Dated segments start packets session out count) (positive : 0 < start)
    (nonempty : ∀ segment ∈ segments, segment ≠ []) {packet : TCPPacket} {index : Nat}
    (copy : CopyOf segments start index packet) :
    ∃ reached, Dated segments start (packets ++ [packet]) (handlePacket session packet).1
      (out ++ (handlePacket session packet).2) reached := by
  obtain ⟨reached, stepped, rest⟩ :=
    handlePacket_frontier positive nonempty dated.frontier dated.rest copy
  have frontier : Frontier segments start
      (fun index => ∃ other ∈ packets ++ [packet], CopyOf segments start index other)
      (handlePacket session packet).1 (out ++ (handlePacket session packet).2) reached := by
    apply stepped.congr
    intro other
    simp only [List.mem_append, List.mem_singleton, or_and_right, exists_or, exists_eq_left,
      copy.unique nonempty]
  refine ⟨reached, frontier, rest, ?_, ?_⟩
  · rw [waitingAfter_snoc]
    exact dated.holding.handlePacket packet
  · intro other chunk found
    by_cases earlier : other < out.length
    · rw [List.getElem?_append_left earlier] at found
      obtain ⟨before, turn, after, split, letsOut, waits⟩ := dated.released other chunk found
      refine ⟨before, turn, after ++ [packet], ?_, letsOut, waits⟩
      rw [split, List.append_assoc, List.cons_append]
    · have length := dated.frontier.length_out
      have within : other < reached := by
        rw [← frontier.length_out]
        exact (List.getElem?_eq_some_iff.mp found).1
      refine ⟨packets, packet, [], rfl, ⟨(frontier.arrivedTo_iff rest).mpr within, ?_⟩, ?_⟩
      · rw [dated.frontier.arrivedTo_iff dated.rest]
        omega
      · have row := frontier.inARow.behind
        rw [Nat.zero_add, length] at row
        rw [List.getElem?_append_right (by omega)] at found
        have waits := dated.lookup positive nonempty row found
        rwa [← length, Nat.add_sub_cancel' (by omega)] at waits

theorem Dated.run (positive : 0 < start) (nonempty : ∀ segment ∈ segments, segment ≠ [])
    {todo : List TCPPacket} (drawn : ∀ packet ∈ todo, ∃ index, CopyOf segments start index packet)
    {packets : List TCPPacket} {session : StreamState} {out : List TimestampedChunk} {count : Nat}
    (dated : Dated segments start packets session out count) :
    ∃ reached, Dated segments start (packets ++ todo) (handlePackets session todo).1
      (out ++ (handlePackets session todo).2.flatten) reached := by
  induction todo generalizing packets session out count with
  | nil =>
      rw [handlePackets, List.flatten_nil, List.append_nil, List.append_nil]
      exact ⟨count, dated⟩
  | cons packet later ih =>
      obtain ⟨index, copy⟩ := drawn packet List.mem_cons_self
      obtain ⟨reached, stepped⟩ := dated.step positive nonempty copy
      obtain ⟨final, after⟩ := ih
        (fun other member => drawn other (List.mem_cons_of_mem _ member)) stepped
      rw [List.append_assoc, List.singleton_append, List.append_assoc] at after
      exact ⟨final, after⟩

theorem firstCopy_of_arrived (nonempty : ∀ segment ∈ segments, segment ≠ [])
    {packets : List TCPPacket}
    (drawn : ∀ packet ∈ packets, ∃ index, CopyOf segments start index packet) {index : Nat}
    {arrival : TCPPacket} (member : arrival ∈ packets)
    (copy : CopyOf segments start index arrival) :
    ∃ packet, firstCopy packets (startOf segments start index) = some packet ∧
      CopyOf segments start index packet := by
  have present : (firstCopy packets (startOf segments start index)).isSome := by
    rw [firstCopy, List.find?_isSome]
    exact ⟨arrival, member, decide_eq_true copy.placed⟩
  obtain ⟨packet, found⟩ := Option.isSome_iff_exists.mp present
  obtain ⟨other, otherCopy⟩ := drawn packet (List.mem_of_find?_eq_some found)
  have placed : packet.sequenceNumber = startOf segments start index :=
    of_decide_eq_true (List.find?_some (p := fun packet : TCPPacket =>
      decide (packet.sequenceNumber = startOf segments start index)) found)
  have same : other = index := (startOf_inj segments start nonempty
    (Nat.le_of_lt otherCopy.within) (Nat.le_of_lt copy.within)).mp
    (by rw [← otherCopy.placed, placed])
  exact ⟨packet, found, same ▸ otherCopy⟩

/-- A segment that is let out has the time of the last of its copies so far. -/
theorem time_of_waiting {packets : List TCPPacket} {seq : Nat} {chunk : TimestampedChunk}
    (waits : waitingAfter idle packets seq = some chunk) :
    (lastCopy packets seq).map TCPPacket.timestamp = some chunk.timestamp := by
  have times := congrArg (Option.map TimestampedChunk.timestamp) waits
  rw [waitingAfter_idle, Option.map_map] at times
  exact times

section

variable {packets : List TCPPacket} {session : StreamState} {out : List TimestampedChunk}
  {count : Nat} (dated : Dated segments start packets session out count)

include dated

theorem Dated.unmoved (firstTimes : ∀ index chunk, out[index]? = some chunk →
      ∃ packet, firstCopy packets (startOf segments start index) = some packet ∧
        CopyOf segments start index packet ∧ chunk = chunkOf packet) :
    WaitsUnmoved segments start packets := by
  intro before packet after index split letsOut
  have isOut : index < out.length := by
    rw [dated.frontier.length_out, ← dated.frontier.arrivedTo_iff dated.rest, split]
    apply letsOut.complete.mono
    simp
  obtain ⟨first, found, _, sameChunk⟩ :=
    firstTimes index out[index] (List.getElem?_eq_getElem isOut)
  obtain ⟨before', packet', after', split', letsOut', waits⟩ :=
    dated.released index out[index] (List.getElem?_eq_getElem isOut)
  obtain ⟨rfl, rfl⟩ := letsOut.unique letsOut' split split'
  rw [time_of_waiting waits, found, sameChunk]
  rfl

theorem Dated.firstTimes (nonempty : ∀ segment ∈ segments, segment ≠ [])
    (drawn : ∀ packet ∈ packets, ∃ index, CopyOf segments start index packet)
    (unmoved : WaitsUnmoved segments start packets) {index : Nat} {chunk : TimestampedChunk}
    (found : out[index]? = some chunk) :
    ∃ packet, firstCopy packets (startOf segments start index) = some packet ∧
      CopyOf segments start index packet ∧ chunk = chunkOf packet := by
  obtain ⟨before, packet, after, split, letsOut, waits⟩ := dated.released index chunk found
  obtain ⟨arrival, member, copy⟩ := letsOut.complete index (Nat.le_refl _)
  have arrived : arrival ∈ packets := by
    rw [split]
    simp only [List.mem_append, List.mem_cons, List.not_mem_nil, or_false] at member ⊢
    exact member.imp_right Or.inl
  obtain ⟨first, foundFirst, ofSegment⟩ := firstCopy_of_arrived nonempty drawn arrived copy
  have time := unmoved before packet after index split letsOut
  rw [time_of_waiting waits, foundFirst] at time
  have data := dated.frontier.inARow index chunk found
  rw [Nat.zero_add, ofSegment.found, Option.some.injEq] at data
  refine ⟨first, foundFirst, ofSegment, ?_⟩
  rw [chunkOf, data, ← Option.some.inj time]

/-- The chunks of a run have the times of their first copies exactly when no segment's time moved
while it waited. -/
theorem Dated.chunks_iff (nonempty : ∀ segment ∈ segments, segment ≠ [])
    (drawn : ∀ packet ∈ packets, ∃ index, CopyOf segments start index packet) :
    (∀ index chunk, out[index]? = some chunk →
      ∃ packet, firstCopy packets (startOf segments start index) = some packet ∧
        CopyOf segments start index packet ∧ chunk = chunkOf packet) ↔
      WaitsUnmoved segments start packets :=
  ⟨dated.unmoved, fun unmoved _ _ found => dated.firstTimes nonempty drawn unmoved found⟩

end

variable (start) in
/-- A byte of chunks that are segments in a row lies in one of them, and has its time. -/
theorem byteTimes_segment {out : List TimestampedChunk} {base : Nat}
    (row : InARow segments base out) {offset : Nat} {time : Datetime}
    (timed : (byteTimes out)[offset]? = some time) :
    ∃ index chunk, out[index]? = some chunk ∧
      startOf segments start (base + index) ≤ startOf segments start base + offset ∧
      startOf segments start base + offset < startOf segments start (base + index + 1) ∧
      chunk.timestamp = time := by
  rw [MessageDecoder.getElem?_byteTimes] at timed
  induction out generalizing base offset with
  | nil => cases timed
  | cons chunk rest ih =>
      have next := startOf_succ segments start base _ row.first
      rw [MessageDecoder.observedAt] at timed
      split at timed
      · refine ⟨0, chunk, rfl, ?_, ?_, Option.some.inj timed⟩
        · rw [Nat.add_zero]
          omega
        · rw [Nat.add_zero]
          omega
      · obtain ⟨index, found, here, lower, upper, same⟩ := ih row.rest timed
        refine ⟨index + 1, found, here, ?_, ?_, same⟩
        · rw [← Nat.add_assoc, Nat.add_right_comm]
          omega
        · rw [← Nat.add_assoc, Nat.add_right_comm base index]
          omega

/-- Bytes and messages take the times of the chunks. -/
theorem ObservedOnArrival.of_chunks {packets : List TCPPacket} {out : List TimestampedChunk}
    (chunks : ∀ index chunk, out[index]? = some chunk →
      ∃ packet, firstCopy packets (startOf segments start index) = some packet ∧
        CopyOf segments start index packet ∧ chunk = chunkOf packet) :
    ObservedOnArrival segments start packets out := by
  have bytes : ∀ offset time, (byteTimes out)[offset]? = some time →
      FirstSeen segments start packets offset time := by
    intro offset time timed
    have row : InARow segments 0 out := by
      intro index chunk found
      obtain ⟨packet, _, copy, rfl⟩ := chunks index chunk found
      rw [Nat.zero_add]
      exact copy.found
    obtain ⟨index, chunk, found, lower, upper, rfl⟩ := byteTimes_segment start row timed
    rw [Nat.zero_add] at lower upper
    obtain ⟨packet, foundFirst, _, rfl⟩ := chunks index chunk found
    exact ⟨index, packet, lower, upper, foundFirst, rfl⟩
  refine ⟨chunks, bytes, ?_⟩
  intro messages decoder remainder fed flushed before message after located
  obtain ⟨messages', decoder', remainder', fed', flushed', _, _, stamped, _⟩ :=
    MessageDecoder.feedAll_splits_stream out
  rw [fed', Generated.mk.injEq] at fed
  obtain ⟨rfl, same⟩ := fed
  cases same
  rw [flushed'] at flushed
  cases flushed
  apply bytes
  rw [MessageDecoder.getElem?_byteTimes]
  exact stamped before message after located

end

/-- A stream cut once into segments, delivered in any order with any duplicates, the first segment
first: what is put out keeps the times of first arrival exactly when no segment's time moves while
it waits behind a gap. -/
theorem observedOnArrival_iff (segments : List Bytes) (start : Nat) (positive : 0 < start)
    (nonempty : ∀ segment ∈ segments, segment ≠ []) (first : TCPPacket) (rest : List TCPPacket)
    (oneDirection : OneDirection (first :: rest)) (begins : CopyOf segments start 0 first)
    (drawn : ∀ packet ∈ rest, ∃ index, CopyOf segments start index packet) :
    ObservedOnArrival segments start (first :: rest)
        (processPackets fresh (first :: rest)).2.flatten ↔
      WaitsUnmoved segments start (first :: rest) := by
  have nothing (index : Nat) : False ↔ ∃ packet ∈ [], CopyOf segments start index packet := by
    simp only [List.not_mem_nil, false_and, exists_false]
  have initial : Dated segments start [] { expectedSequence := start } [] 0 :=
    ⟨(frontier_start segments start).congr nothing, rfl, ⟨fun _ _ => rfl, rfl, fun _ _ => rfl⟩,
      fun _ _ found => by cases found⟩
  have allDrawn : ∀ packet ∈ first :: rest, ∃ index, CopyOf segments start index packet :=
    List.forall_mem_cons.mpr ⟨⟨0, begins⟩, drawn⟩
  obtain ⟨count, dated⟩ := initial.run positive nonempty allDrawn
  rw [List.nil_append, List.nil_append] at dated
  have placed : first.sequenceNumber = start := begins.placed
  rw [oneDirection.processPackets_fresh, placed, ← dated.chunks_iff nonempty allDrawn]
  exact ⟨ObservedOnArrival.chunks, ObservedOnArrival.of_chunks⟩

/-- The third segment waits for the second, and arrives again once it is out. -/
theorem observedOnArrival_iff_sample :
    let packets := [samplePacket 100 [1], { samplePacket 102 [3] with timestamp := .utc (.second 1) },
      { samplePacket 101 [2] with timestamp := .utc (.second 9) },
      { samplePacket 102 [3] with timestamp := .utc (.second 12) }]
    ObservedOnArrival [[1], [2], [3]] 100 packets (processPackets fresh packets).2.flatten ↔
      WaitsUnmoved [[1], [2], [3]] 100 packets :=
  observedOnArrival_iff [[1], [2], [3]] 100 (by decide) (by decide) (samplePacket 100 [1])
    [{ samplePacket 102 [3] with timestamp := .utc (.second 1) },
      { samplePacket 101 [2] with timestamp := .utc (.second 9) },
      { samplePacket 102 [3] with timestamp := .utc (.second 12) }]
    ⟨"10.0.0.1", 1234, "10.0.0.2", 80, by
      simp only [List.forall_mem_cons, List.not_mem_nil, false_implies, implies_true, and_true]
      exact ⟨⟨rfl, rfl, rfl, rfl⟩, ⟨rfl, rfl, rfl, rfl⟩, ⟨rfl, rfl, rfl, rfl⟩, rfl, rfl, rfl, rfl⟩⟩
    ⟨rfl, rfl⟩ (by
      simp only [List.forall_mem_cons, List.not_mem_nil, false_implies, implies_true, and_true]
      exact ⟨⟨2, rfl, rfl⟩, ⟨1, rfl, rfl⟩, ⟨2, rfl, rfl⟩⟩)

/-- The third segment arrives a second time while it waits for the second, and is put out with the
time of that arrival. -/
theorem waiting_segment_moves :
    let packets := [samplePacket 100 [1], { samplePacket 102 [3] with timestamp := .utc (.second 1) },
      { samplePacket 102 [3] with timestamp := .utc (.second 5) },
      { samplePacket 101 [2] with timestamp := .utc (.second 9) }]
    ¬ ObservedOnArrival [[1], [2], [3]] 100 packets (processPackets fresh packets).2.flatten := by
  intro packets observed
  obtain ⟨packet, found, _, dated⟩ :=
    observed.chunks 2 ⟨.utc (.second 5), [3]⟩ (by decide +kernel)
  have first : firstCopy packets 102 =
      some { samplePacket 102 [3] with timestamp := .utc (.second 1) } := by decide +kernel
  rw [show startOf [[1], [2], [3]] 100 2 = 102 from rfl, first] at found
  cases found
  exact absurd (congrArg TimestampedChunk.timestamp dated) (by decide +kernel)

end SignalForge.TcpReassembler
