import SignalForge.TcpReassemblerBeside

/-! Packets without payload inserted into a stream. One that repeats the number of a segment
still waiting takes its place. -/

set_option autoImplicit false

namespace SignalForge.TcpReassembler

theorem expectedAfter_snoc_le (packets : List TCPPacket) (packet : TCPPacket) :
    expectedAfter packets ≤ expectedAfter (packets ++ [packet]) := by
  unfold expectedAfter
  rw [handlePackets_snoc]
  exact (handlePackets_holding holding_fresh packets).expected_le packet

/-- A first packet with data starts the count for good. -/
theorem expectedAfter_begun (first : TCPPacket) (full : first.payload ≠ [])
    (rest : List TCPPacket) : expectedAfter (first :: rest) ≠ 0 := by
  induction rest using List.reverseRecOn with
  | nil =>
      have next : Next ({} : StreamState).expectedSequence first := ⟨rfl, full⟩
      have positive := List.length_pos_iff.mpr full
      obtain ⟨chunks, call, released⟩ := handlePacket_next holding_fresh next
      have reached := released.le
      change (handlePacket {} first).1.expectedSequence ≠ 0
      omega
  | append_singleton rest packet ih =>
      have later := expectedAfter_snoc_le (first :: rest) packet
      rw [List.cons_append] at later
      omega

theorem empty_ignored {expected : Nat} {packet : TCPPacket} (begun : expected ≠ 0)
    (blank : packet.payload = []) : Ignored expected packet :=
  ⟨openedAt_of_begun packet begun, fun next => next.2 blank⟩

/-- Inserting nothing but empty packets can only take bytes away from a number. -/
theorem lastBytes_missing (arrivals : List Arrival)
    (blank : ∀ arrival ∈ arrivals, arrival.own = false → arrival.packet.payload = [])
    (seq : Nat) :
    lastBytes (shared arrivals) seq = lastBytes (alone arrivals) seq ∨
      lastBytes (shared arrivals) seq = [] := by
  induction arrivals using List.reverseRecOn with
  | nil => exact Or.inl rfl
  | append_singleton before arrival ih =>
      have known := ih fun other member => blank other (List.mem_append_left _ member)
      rw [shared_snoc, lastBytes_snoc]
      cases own : arrival.own with
      | true =>
          rw [alone_snoc_own before own, lastBytes_snoc]
          split
          · exact Or.inl rfl
          · exact known
      | false =>
          rw [alone_snoc_other before own]
          split
          · exact Or.inr (blank arrival (List.mem_append_right _ (List.mem_singleton.mpr rfl)) own)
          · exact known

/-- All bytes of a fresh run over the packets of one connection. -/
def bytesOf (packets : List TCPPacket) : Bytes := yielded (handlePackets {} packets).2.flatten

theorem bytesOf_snoc (packets : List TCPPacket) (packet : TCPPacket) :
    bytesOf (packets ++ [packet]) =
      bytesOf packets ++ yielded (handlePacket (handlePackets {} packets).1 packet).2 := by
  unfold bytesOf
  rw [handlePackets_snoc, List.flatten_append, yielded_append, List.flatten_singleton]

theorem forall_prefix_snoc {α : Type} (motive : List α → Prop) (items : List α) (item : α) :
    (∀ before, before <+: items ++ [item] → motive before) ↔
      (∀ before, before <+: items → motive before) ∧ motive (items ++ [item]) := by
  simp only [List.prefix_concat_iff, or_imp, forall_and, forall_eq]
  exact and_comm

theorem forall_step_snoc {α : Type} (motive : List α → α → Prop) (items : List α) (item : α) :
    (∀ before next, before ++ [next] <+: items ++ [item] → motive before next) ↔
      (∀ before next, before ++ [next] <+: items → motive before next) ∧ motive items item := by
  simp only [List.prefix_concat_iff, or_imp, forall_and]
  rw [and_comm]
  refine and_congr_right fun _ => ⟨fun all => all items item rfl, fun last before next same => ?_⟩
  obtain ⟨rfl, rfl⟩ := List.append_inj' same rfl |>.imp id List.cons.inj |>.imp id And.left
  exact last

/-- While both runs expect the same number, the compared packet yields the same in both
exactly when nothing inserted stands in its way. -/
theorem undisturbed_iff_sameCall {before : List Arrival} {arrival : Arrival}
    (blank : ∀ other ∈ before, other.own = false → other.packet.payload = [])
    (same : expectedAfter (shared before) = expectedAfter (alone before))
    (own : arrival.own = true) :
    Undisturbed before arrival ↔ sharedCall before arrival = aloneCall before arrival := by
  constructor
  · intro undisturbed
    exact (expected_snoc_own same own undisturbed).1
  · intro sameCall _ next seq comes
    obtain ⟨ourData, theirData, our, their, call, call'⟩ := calls_next same next
    rw [call, call'] at sameCall
    exact our.found their (lastBytes_missing before blank) (List.append_cancel_left sameCall)
      comes

theorem sameBytes_snoc {before : List Arrival} {arrival : Arrival}
    (blank : ∀ other ∈ before, other.own = false → other.packet.payload = [])
    (same : expectedAfter (shared before) = expectedAfter (alone before))
    (ignored : arrival.own = false → Ignored (expectedAfter (alone before)) arrival.packet)
    (sameBytes : bytesOf (shared before) = bytesOf (alone before)) :
    bytesOf (shared (before ++ [arrival])) = bytesOf (alone (before ++ [arrival])) ↔
      Undisturbed before arrival := by
  rw [shared_snoc, bytesOf_snoc, sameBytes]
  cases own : arrival.own with
  | true =>
      rw [alone_snoc_own before own, bytesOf_snoc, undisturbed_iff_sameCall blank same own,
        List.append_cancel_left_eq]
      exact Iff.rfl
  | false =>
      have nothing := (expected_snoc_other same own (ignored own)).1
      unfold sharedCall at nothing
      rw [alone_snoc_other before own, nothing, List.append_nil]
      refine iff_of_true rfl fun mine => ?_
      rw [own] at mine
      cases mine

/-- The induction is on the arrivals. As long as every step so far was undisturbed both runs
expect the same number, so the next step can be compared. -/
theorem sameBytes_iff_undisturbed (arrivals : List Arrival)
    (blank : ∀ arrival ∈ arrivals, arrival.own = false → arrival.packet.payload = [])
    (ignored : ∀ before arrival, before ++ [arrival] <+: arrivals → arrival.own = false →
      Ignored (expectedAfter (alone before)) arrival.packet) :
    ((∀ before, before <+: arrivals → bytesOf (shared before) = bytesOf (alone before)) ↔
        ∀ before arrival, before ++ [arrival] <+: arrivals → Undisturbed before arrival) ∧
      ((∀ before arrival, before ++ [arrival] <+: arrivals → Undisturbed before arrival) →
        expectedAfter (shared arrivals) = expectedAfter (alone arrivals)) := by
  induction arrivals using List.reverseRecOn with
  | nil =>
      refine ⟨iff_of_true ?_ ?_, fun _ => rfl⟩
      · intro before prefixed
        rw [List.prefix_nil.mp prefixed]
        rfl
      · intro before arrival prefixed
        exact absurd (List.prefix_nil.mp prefixed) (List.append_ne_nil_of_right_ne_nil _ (by simp))
  | append_singleton items item ih =>
      have blankItems : ∀ other ∈ items, other.own = false → other.packet.payload = [] :=
        fun other member => blank other (List.mem_append_left _ member)
      obtain ⟨sameBytes, sameExpected⟩ := ih blankItems fun before arrival prefixed =>
        ignored before arrival (prefixed.trans (List.prefix_append _ _))
      have here := ignored items item (List.prefix_refl _)
      rw [forall_prefix_snoc, forall_step_snoc, sameBytes]
      refine ⟨and_congr_right fun undisturbed => ?_, ?_⟩
      · exact sameBytes_snoc blankItems (sameExpected undisturbed) here
          (sameBytes.mpr undisturbed items (List.prefix_refl _))
      · rintro ⟨undisturbed, last⟩
        cases own : item.own with
        | true => exact (expected_snoc_own (sameExpected undisturbed) own last).2
        | false => exact (expected_snoc_other (sameExpected undisturbed) own (here own)).2

theorem processPackets_bytesOf (key : SessionKey) (packets : List TCPPacket)
    (sameKey : ∀ packet ∈ packets, packetKey packet = key) :
    yielded (processPackets fresh packets).2.flatten = bytesOf packets := by
  rw [(processPackets_sameKey fresh key packets sameKey).2, streamOf_fresh]
  rfl

theorem mem_shared_of_begins {before arrivals : List Arrival} (prefixed : before <+: arrivals)
    {packet : TCPPacket} (member : packet ∈ shared before) : packet ∈ shared arrivals :=
  (prefixed.map Arrival.packet).subset member

theorem mem_shared_of_alone {arrivals : List Arrival} {packet : TCPPacket}
    (member : packet ∈ alone arrivals) : packet ∈ shared arrivals :=
  (List.filter_sublist.map Arrival.packet).subset member

/-- Empty packets inserted behind a first packet with data leave the bytes yielded so far the
same at every moment exactly when, whenever data arrives in turn, the last packet at each
number it lets reassembly come to carries what the last packet of the stream itself does. -/
theorem insertion_unnoticed_iff (first : TCPPacket) (rest : List Arrival)
    (oneDirection : OneDirection (shared (⟨first, true⟩ :: rest))) (full : first.payload ≠ [])
    (blank : ∀ arrival ∈ rest, arrival.own = false → arrival.packet.payload = []) :
    (∀ before, before <+: ⟨first, true⟩ :: rest →
        yielded (processPackets fresh (shared before)).2.flatten =
          yielded (processPackets fresh (alone before)).2.flatten) ↔
      ∀ before arrival, before ++ [arrival] <+: ⟨first, true⟩ :: rest →
        Undisturbed before arrival := by
  have keys := oneDirection.sameKey
  have blankAll : ∀ arrival ∈ (⟨first, true⟩ : Arrival) :: rest, arrival.own = false →
      arrival.packet.payload = [] := by
    intro arrival member other
    rcases List.mem_cons.mp member with rfl | later
    · cases other
    · exact blank arrival later other
  have ignored : ∀ before arrival, before ++ [arrival] <+: (⟨first, true⟩ : Arrival) :: rest →
      arrival.own = false → Ignored (expectedAfter (alone before)) arrival.packet := by
    intro before arrival prefixed other
    have member := prefixed.subset (List.mem_append_right _ (List.mem_singleton.mpr rfl))
    refine empty_ignored ?_ (blankAll arrival member other)
    cases before with
    | nil =>
        rw [List.nil_append, List.cons_prefix_cons] at prefixed
        rw [prefixed.1] at other
        cases other
    | cons head earlier =>
        rw [List.cons_append, List.cons_prefix_cons] at prefixed
        rw [prefixed.1]
        exact expectedAfter_begun first full _
  rw [← (sameBytes_iff_undisturbed _ blankAll ignored).1]
  refine forall_congr' fun before => imp_congr_right fun prefixed => ?_
  rw [processPackets_bytesOf _ (shared before) fun packet member =>
      keys packet (mem_shared_of_begins prefixed member),
    processPackets_bytesOf _ (alone before) fun packet member =>
      keys packet (mem_shared_of_begins prefixed (mem_shared_of_alone member))]

/-- A keep-alive that repeats the number of a segment waiting behind a gap. -/
def sampleInsertion : List Arrival :=
  [⟨samplePacket 102 [3], true⟩, ⟨samplePacket 102 [], false⟩, ⟨samplePacket 101 [2], true⟩]

theorem sampleInsertion_blank :
    ∀ arrival ∈ sampleInsertion, arrival.own = false → arrival.packet.payload = [] := by
  decide

theorem insertion_unnoticed_iff_sample :
    (∀ before, before <+: ⟨samplePacket 100 [1], true⟩ :: sampleInsertion →
        yielded (processPackets fresh (shared before)).2.flatten =
          yielded (processPackets fresh (alone before)).2.flatten) ↔
      ∀ before arrival,
        before ++ [arrival] <+: ⟨samplePacket 100 [1], true⟩ :: sampleInsertion →
        Undisturbed before arrival :=
  insertion_unnoticed_iff (samplePacket 100 [1]) sampleInsertion
    ⟨"10.0.0.1", 1234, "10.0.0.2", 80, by decide⟩ (by decide) sampleInsertion_blank

/-- The waiting byte is lost. -/
theorem keepAlive_drops_waiting_segment :
    let arrivals := ⟨samplePacket 100 [1], true⟩ :: sampleInsertion
    OneDirection (shared arrivals) ∧
      (∀ arrival ∈ arrivals, 0 < arrival.packet.sequenceNumber ∧
        (arrival.own = false ↔ arrival.packet.payload = [])) ∧
      yielded (processPackets fresh (alone arrivals)).2.flatten = [1, 2, 3] ∧
      yielded (processPackets fresh (shared arrivals)).2.flatten = [1, 2] :=
  ⟨⟨"10.0.0.1", 1234, "10.0.0.2", 80, by decide⟩, by decide, by decide, by decide⟩

end SignalForge.TcpReassembler
