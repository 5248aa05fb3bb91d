import Mathlib.Logic.Relation
import SignalForge.TcpReassemblerExact

/-! Which re-segmented captures come out whole. The frontier only ever moves from the start
of an arrived segment to its end, so a stream is complete exactly when segments hand it over
end to end in that way. -/

set_option autoImplicit false

namespace SignalForge.TcpReassembler

open Relation

/-- The last of the packets that starts at a sequence number. -/
def lastCopy (packets : List TCPPacket) (seq : Nat) : Option TCPPacket :=
  packets.reverse.find? fun packet => packet.sequenceNumber = seq

theorem lastCopy_snoc (packets : List TCPPacket) (packet : TCPPacket) (seq : Nat) :
    lastCopy (packets ++ [packet]) seq =
      if packet.sequenceNumber = seq then some packet else lastCopy packets seq := by
  simp only [lastCopy, List.reverse_append, List.reverse_cons, List.reverse_nil, List.nil_append,
    List.singleton_append, List.find?_cons]
  split <;> simp_all

theorem lastCopy_eq_none (packets : List TCPPacket) (seq : Nat) :
    lastCopy packets seq = none ↔ ∀ packet ∈ packets, packet.sequenceNumber ≠ seq := by
  simp [lastCopy, List.find?_eq_none]

theorem lastCopy_mem {packets : List TCPPacket} {seq : Nat} {packet : TCPPacket}
    (found : lastCopy packets seq = some packet) : packet ∈ packets :=
  List.mem_reverse.mp (List.mem_of_find?_eq_some found)

/-- From a position reached after some arrivals, the end of the segment that takes over there:
the last copy starting there that has arrived, or else the first that arrives later. -/
inductive HandOver (packets : List TCPPacket) : Nat × Nat → Nat × Nat → Prop
  | held {arrivals position : Nat} {packet : TCPPacket}
      (copy : lastCopy (packets.take arrivals) position = some packet) :
      HandOver packets (arrivals, position) (arrivals, position + packet.payload.length)
  | later {arrivals position wait : Nat} {packet : TCPPacket}
      (absent : lastCopy (packets.take (arrivals + wait)) position = none)
      (arrives : packets[arrivals + wait]? = some packet)
      (starts : packet.sequenceNumber = position) :
      HandOver packets (arrivals, position)
        (arrivals + wait + 1, position + packet.payload.length)

theorem lastCopy_none_of_le {packets : List TCPPacket} {few many seq : Nat} (le : few ≤ many)
    (absent : lastCopy (packets.take many) seq = none) :
    lastCopy (packets.take few) seq = none := by
  rw [lastCopy_eq_none] at absent ⊢
  intro packet member
  exact absent packet ((List.take_prefix_take_left le).subset member)

theorem arrived_not_absent {packets : List TCPPacket} {index many : Nat} {packet : TCPPacket}
    (arrives : packets[index]? = some packet) (less : index < many)
    (absent : lastCopy (packets.take many) packet.sequenceNumber = none) : False := by
  have member : packet ∈ packets.take many :=
    List.mem_of_getElem? (i := index) (by rw [List.getElem?_take_of_lt less, arrives])
  exact (lastCopy_eq_none _ _).mp absent packet member rfl

theorem handOver_rightUnique (packets : List TCPPacket) :
    Relator.RightUnique (HandOver packets) := by
  intro from' left right first second
  cases first with
  | held copy =>
      cases second with
      | held copy' => simp only [copy, Option.some.injEq] at copy'; rw [copy']
      | later absent arrives starts =>
          rw [lastCopy_none_of_le (Nat.le_add_right _ _) absent] at copy
          cases copy
  | @later arrivals position wait packet absent arrives starts =>
      cases second with
      | held copy =>
          rw [lastCopy_none_of_le (Nat.le_add_right _ _) absent] at copy
          cases copy
      | @later _ _ wait' packet' absent' arrives' starts' =>
          rcases Nat.lt_trichotomy wait wait' with less | same | more
          · exact (arrived_not_absent arrives (Nat.add_lt_add_left less _)
              (starts ▸ absent')).elim
          · subst same
            simp only [arrives, Option.some.injEq] at arrives'
            rw [arrives']
          · exact (arrived_not_absent arrives' (Nat.add_lt_add_left more _)
              (starts' ▸ absent)).elim

theorem handOver_position_le {packets : List TCPPacket} {low high : Nat × Nat}
    (path : ReflTransGen (HandOver packets) low high) : low.2 ≤ high.2 := by
  induction path with
  | refl => exact Nat.le_refl _
  | tail _ step ih =>
      refine Nat.le_trans ih ?_
      cases step <;> exact Nat.le_add_right _ _

/-- After the first `count` packets the frontier lies on the hand-over path, and what is held
from there on is the last copy of each start. -/
structure OnPath (packets : List TCPPacket) (start count : Nat) (session : StreamState)
    (used : Nat) : Prop where
  reached : ReflTransGen (HandOver packets) (0, start) (used, session.expectedSequence)
  held : ∀ seq, session.expectedSequence ≤ seq →
    (session.bufferedSegments.get? seq).map TimestampedChunk.data =
      (lastCopy (packets.take count) seq).map TCPPacket.payload

theorem flushLoop_onPath (packets : List TCPPacket)
    (nonempty : ∀ packet ∈ packets, packet.payload ≠ []) (start count turns : Nat)
    (session : StreamState) (inv : OnPath packets start count session count) :
    OnPath packets start count (flushLoop turns session).1 count := by
  induction turns generalizing session with
  | zero => exact inv
  | succ turns ih =>
      simp only [flushLoop]
      split
      · exact inv
      · rename_i chunk next popped
        obtain ⟨found, erased, moved⟩ := flushStep_eq_some popped
        have held := inv.held _ (Nat.le_refl _)
        rw [found, Option.map_some] at held
        obtain ⟨packet, copy, same⟩ := Option.map_eq_some_iff.mp held.symm
        have positive : 0 < chunk.data.length := by
          rw [← same]
          exact List.length_pos_iff.mpr
            (nonempty packet (List.mem_of_mem_take (lastCopy_mem copy)))
        refine ih next ⟨?_, ?_⟩
        · rw [moved, ← same]
          exact inv.reached.tail (.held copy)
        · intro seq above
          rw [erased, OrderedDict.get?_erase_of_ne _ (by omega)]
          exact inv.held seq (by omega)

/-- One arrival keeps the frontier on the path. At rest nothing that arrived starts there. -/
theorem handlePacket_onPath (packets : List TCPPacket)
    (nonempty : ∀ packet ∈ packets, packet.payload ≠ []) (start count used : Nat)
    (session : StreamState) (packet : TCPPacket) (arrives : packets[count]? = some packet)
    (begun : session.expectedSequence ≠ 0) (rest : flushStep session = none)
    (within : used ≤ count) (inv : OnPath packets start count session used) :
    ∃ used' ≤ count + 1,
      OnPath packets start (count + 1) (handlePacket session packet).1 used' ∧
      flushStep (handlePacket session packet).1 = none := by
  have taken : packets.take (count + 1) = packets.take count ++ [packet] := by
    rw [List.take_add_one, arrives, Option.toList_some]
  have handled := handlePacket_cases session packet begun
  generalize handlePacket session packet = result at handled ⊢
  cases handled with
  | below old =>
      refine ⟨used, by omega, ⟨inv.reached, ?_⟩, rest⟩
      intro seq above
      have apart : packet.sequenceNumber ≠ seq := by
        simp only at above
        omega
      simp only [taken, lastCopy_snoc, apart, ↓reduceIte]
      exact inv.held seq above
  | ahead early =>
      refine ⟨used, by omega, ⟨inv.reached, ?_⟩, ?_⟩
      · intro seq above
        rw [taken, lastCopy_snoc, OrderedDict.get?_set]
        by_cases same : seq = packet.sequenceNumber
        · simp only [same, ↓reduceIte, Option.map_some]
        · have apart : packet.sequenceNumber ≠ seq := fun equal => same equal.symm
          simp only [same, apart, ↓reduceIte]
          exact inv.held seq above
      · rw [flushStep_eq_none] at rest ⊢
        rw [OrderedDict.get?_set_of_ne _ _ (Nat.ne_of_lt early), rest]
  | empty next blank =>
      exact absurd blank (nonempty _ (List.mem_of_getElem? arrives))
  | next next full =>
      have positive := List.length_pos_iff.mpr full
      have absent : lastCopy (packets.take count) session.expectedSequence = none := by
        have held := inv.held _ (Nat.le_refl _)
        rw [(flushStep_eq_none _).mp rest, Option.map_none] at held
        exact Option.map_eq_none_iff.mp held.symm
      obtain ⟨wait, rfl⟩ := Nat.exists_eq_add_of_le within
      refine ⟨used + wait + 1, Nat.le_refl _, ?_, flushBuffer_done _⟩
      apply flushLoop_onPath packets nonempty
      refine ⟨inv.reached.tail (.later absent arrives next), ?_⟩
      intro seq above
      have apart : packet.sequenceNumber ≠ seq := by
        simp only at above
        omega
      simp only [taken, lastCopy_snoc, apart, ↓reduceIte]
      exact inv.held seq (by simp only at above; omega)

theorem handlePackets_onPath (stream : Bytes) (packets done todo : List TCPPacket)
    (split : packets = done ++ todo)
    (nonempty : ∀ packet ∈ packets, packet.payload ≠ []) (start used : Nat)
    (positive : 0 < start) (session : StreamState) (out : Bytes)
    (carries : ∀ packet ∈ packets, Carries stream start packet)
    (contiguous : Contiguous stream start session out)
    (rest : flushStep session = none) (within : used ≤ done.length)
    (inv : OnPath packets start done.length session used) :
    ∃ used', OnPath packets start packets.length (handlePackets session todo).1 used' ∧
      flushStep (handlePackets session todo).1 = none ∧
      Contiguous stream start (handlePackets session todo).1
        (out ++ yielded (handlePackets session todo).2.flatten) := by
  induction todo generalizing done session out used with
  | nil =>
      rw [List.append_nil] at split
      subst split
      refine ⟨used, inv, rest, ?_⟩
      simpa only [handlePackets, List.flatten_nil, yielded_nil, List.append_nil] using contiguous
  | cons packet later ih =>
      have arrives : packets[done.length]? = some packet := by
        rw [split, List.getElem?_append_right (Nat.le_refl _), Nat.sub_self,
          List.getElem?_cons_zero]
      have begun : session.expectedSequence ≠ 0 := by
        have := contiguous.lower
        omega
      obtain ⟨used', within', stepped, rest'⟩ := handlePacket_onPath packets nonempty start
        done.length used session packet arrives begun rest within inv
      have contiguous' := handlePacket_contiguous stream start session packet out begun
        (carries packet (List.mem_of_getElem? arrives)) contiguous
      obtain ⟨final, path, done', whole⟩ := ih (done ++ [packet])
        (by rw [split, List.append_assoc, List.singleton_append]) used' _ _ contiguous' rest'
        (by simpa only [List.length_append, List.length_singleton] using within')
        (by simpa only [List.length_append, List.length_singleton] using stepped)
      refine ⟨final, path, done', ?_⟩
      simpa only [handlePackets, List.flatten_cons, yielded_append, List.append_assoc] using whole

/-- Every sequence number of the stream lies in some packet. -/
def Covers (stream : Bytes) (start : Nat) (packets : List TCPPacket) : Prop :=
  ∀ offset < stream.length, ∃ packet ∈ packets,
    packet.sequenceNumber ≤ start + offset ∧
      start + offset < packet.sequenceNumber + packet.payload.length

/-- Non-empty slices of a stream, the first at its start, yield the whole stream exactly when
they hand it over end to end. Covering it is not enough. -/
theorem yields_stream_iff_handOver (stream : Bytes) (start : Nat) (positive : 0 < start)
    (first : TCPPacket) (rest : List TCPPacket) (oneDirection : OneDirection (first :: rest))
    (begins : first.sequenceNumber = start)
    (nonempty : ∀ packet ∈ first :: rest, packet.payload ≠ [])
    (carries : ∀ packet ∈ first :: rest, Carries stream start packet) :
    yielded (processPackets fresh (first :: rest)).2.flatten = stream ↔
      ∃ arrivals, ReflTransGen (HandOver (first :: rest)) (0, start)
        (arrivals, start + stream.length) := by
  rw [oneDirection.processPackets_fresh, begins]
  obtain ⟨used, path, guardFalse, whole⟩ := handlePackets_onPath stream (first :: rest) []
    (first :: rest) rfl nonempty start 0 positive { expectedSequence := start } [] carries
    (fresh_contiguous stream start) rfl (Nat.le_refl _) ⟨.refl, fun _ _ => rfl⟩
  generalize handlePackets { expectedSequence := start } (first :: rest) = final at *
  have lower := whole.lower
  have upper := whole.upper
  have delivered := whole.delivered
  rw [List.nil_append] at delivered
  -- nothing that arrived starts at the frontier, so the path ends there
  have stuck : ∀ next, ¬ HandOver (first :: rest) (used, final.1.expectedSequence) next := by
    have held := path.held _ (Nat.le_refl _)
    rw [(flushStep_eq_none _).mp guardFalse, Option.map_none, List.take_length] at held
    have absent := (lastCopy_eq_none _ _).mp (Option.map_eq_none_iff.mp held.symm)
    rintro next (copy | ⟨_, arrives, starts⟩)
    · have found := List.find?_some copy
      exact absent _ (List.mem_of_mem_take (lastCopy_mem copy)) (of_decide_eq_true found)
    · exact absent _ (List.mem_of_getElem? arrives) starts
  constructor
  · intro complete
    rw [complete] at delivered
    have length := congrArg List.length delivered
    rw [List.length_take, Nat.min_eq_left upper] at length
    refine ⟨used, ?_⟩
    have reached := path.reached
    rwa [show final.1.expectedSequence = start + stream.length by omega] at reached
  · rintro ⟨arrivals, chain⟩
    have atEnd : final.1.expectedSequence = start + stream.length := by
      rcases path.reached.total_of_right_unique (handOver_rightUnique _) chain with more | less
      · rcases more.cases_head with same | ⟨next, step, _⟩
        · exact congrArg Prod.snd same
        · exact (stuck next step).elim
      · have := handOver_position_le less
        simp only at this
        omega
    rw [delivered, atEnd, Nat.add_sub_cancel_left, List.take_length]

/-- A retransmission cut one byte earlier than the frontier is dropped with its new bytes, so
slices that cover the stream do not yield it. -/
theorem straddling_segment_lost :
    let packets := [samplePacket 100 [1, 2, 3], samplePacket 102 [3, 4, 5]]
    OneDirection packets ∧ Covers [1, 2, 3, 4, 5] 100 packets ∧
      (∀ packet ∈ packets, packet.payload ≠ [] ∧ Carries [1, 2, 3, 4, 5] 100 packet) ∧
      yielded (processPackets fresh packets).2.flatten ≠ [1, 2, 3, 4, 5] := by
  refine ⟨⟨"10.0.0.1", 1234, "10.0.0.2", 80, by decide⟩, by unfold Covers; decide, ?_,
    by decide⟩
  simp only [List.forall_mem_cons, List.not_mem_nil, false_implies, implies_true, and_true]
  exact ⟨⟨by decide, by decide, by decide, by decide⟩, by decide, by decide, by decide, by decide⟩

/-- Segments that overlap but hand over end to end: the third segment takes over where the
first ends, after the second has been dropped. -/
theorem yields_stream_after_overlap :
    yielded (processPackets fresh [samplePacket 100 [1, 2, 3], samplePacket 102 [3, 4],
      samplePacket 103 [4, 5]]).2.flatten = [1, 2, 3, 4, 5] ↔
      ∃ arrivals, ReflTransGen (HandOver [samplePacket 100 [1, 2, 3], samplePacket 102 [3, 4],
        samplePacket 103 [4, 5]]) (0, 100) (arrivals, 105) :=
  yields_stream_iff_handOver [1, 2, 3, 4, 5] 100 (by decide) (samplePacket 100 [1, 2, 3])
    [samplePacket 102 [3, 4], samplePacket 103 [4, 5]]
    ⟨"10.0.0.1", 1234, "10.0.0.2", 80, by decide⟩ rfl (by decide) (by
      simp only [List.forall_mem_cons, List.not_mem_nil, false_implies, implies_true, and_true]
      exact ⟨⟨by decide, by decide, by decide⟩, ⟨by decide, by decide, by decide⟩,
        ⟨by decide, by decide, by decide⟩⟩)

end SignalForge.TcpReassembler
