import SignalForge.TcpReassemblerInsertion

/-! The two directions of a connection. They share one session, and with it one expected
number and one buffer for two sequence spaces. -/

set_option autoImplicit false

namespace SignalForge.TcpReassembler

open SessionTracker

/-- The packet goes from one endpoint to the other. -/
def Travels (source destination : String × Nat) (packet : TCPPacket) : Prop :=
  (packet.srcIp, packet.srcPort) = source ∧ (packet.dstIp, packet.dstPort) = destination

theorem endpointLe_total (left right : String × Nat) :
    endpointLe left right = true ∨ endpointLe right left = true := by
  unfold endpointLe
  simp only [decide_eq_true_eq]
  rcases lt_trichotomy left.1 right.1 with less | same | more
  · exact Or.inl (Or.inl less)
  · rcases Nat.le_total left.2 right.2 with le | ge
    · exact Or.inl (Or.inr ⟨same, le⟩)
    · exact Or.inr (Or.inr ⟨same.symm, ge⟩)
  · exact Or.inr (Or.inl more)

theorem endpointLe_antisymm {left right : String × Nat} (le : endpointLe left right = true)
    (ge : endpointLe right left = true) : left = right := by
  unfold endpointLe at le ge
  simp only [decide_eq_true_eq] at le ge
  rcases le with less | ⟨same, le⟩
  · rcases ge with more | ⟨same, _⟩
    · exact (lt_asymm less more).elim
    · exact (lt_irrefl _ (same ▸ less)).elim
  · rcases ge with more | ⟨_, ge⟩
    · exact (lt_irrefl _ (same ▸ more)).elim
    · exact Prod.ext same (Nat.le_antisymm le ge)

theorem normaliseSessionKey_comm (srcIp : String) (srcPort : Nat) (dstIp : String)
    (dstPort : Nat) :
    normaliseSessionKey srcIp srcPort dstIp dstPort =
      normaliseSessionKey dstIp dstPort srcIp srcPort := by
  unfold normaliseSessionKey
  by_cases le : endpointLe (srcIp, srcPort) (dstIp, dstPort) = true
  · by_cases ge : endpointLe (dstIp, dstPort) (srcIp, srcPort) = true
    · have same := endpointLe_antisymm le ge
      simp only [Prod.mk.injEq] at same
      simp only [same.1, same.2]
    · simp only [le, ge, ↓reduceIte, Bool.false_eq_true]
  · have ge := (endpointLe_total (srcIp, srcPort) (dstIp, dstPort)).resolve_left le
    simp only [le, ge, ↓reduceIte, Bool.false_eq_true]

theorem Travels.key {source destination : String × Nat} {packet : TCPPacket}
    (travels : Travels source destination packet) :
    packetKey packet =
      normaliseSessionKey source.1 source.2 destination.1 destination.2 := by
  rw [← travels.1, ← travels.2]
  rfl

/-- Both directions are filed under one key. -/
theorem Travels.key_back {source destination : String × Nat} {packet : TCPPacket}
    (travels : Travels destination source packet) :
    packetKey packet =
      normaliseSessionKey source.1 source.2 destination.1 destination.2 := by
  rw [travels.key, normaliseSessionKey_comm]

/-- The calls made for the compared packets. -/
def ownCalls (arrivals : List Arrival) (calls : List (List TimestampedChunk)) :
    List (List TimestampedChunk) :=
  ((arrivals.zip calls).filter fun call => call.1.own).map Prod.snd

theorem ownCalls_snoc (before : List Arrival) (arrival : Arrival)
    (calls : List (List TimestampedChunk)) (call : List TimestampedChunk)
    (same : before.length = calls.length) :
    ownCalls (before ++ [arrival]) (calls ++ [call]) =
      ownCalls before calls ++ if arrival.own = true then [call] else [] := by
  unfold ownCalls
  rw [List.zip_append same, List.filter_append, List.map_append, List.zip_cons_cons,
    List.zip_nil_right, List.filter_cons]
  split <;> rfl

/-- A step that the other direction leaves alone: its own packets are ignored, and the numbers
released hold what this direction last sent there. -/
def KeepsApart (before : List Arrival) (arrival : Arrival) : Prop :=
  (arrival.own = false → Ignored (expectedAfter (alone before)) arrival.packet) ∧
    Undisturbed before arrival

theorem ownCalls_alike (arrivals : List Arrival)
    (apart : ∀ before arrival, before ++ [arrival] <+: arrivals → KeepsApart before arrival) :
    (ownCalls arrivals (handlePackets {} (shared arrivals)).2).map yielded =
        (handlePackets {} (alone arrivals)).2.map yielded ∧
      expectedAfter (shared arrivals) = expectedAfter (alone arrivals) := by
  induction arrivals using List.reverseRecOn with
  | nil => exact ⟨rfl, rfl⟩
  | append_singleton before arrival ih =>
      rw [forall_step_snoc] at apart
      obtain ⟨calls, same⟩ := ih apart.1
      obtain ⟨ignored, undisturbed⟩ := apart.2
      have lengths : before.length = (handlePackets {} (shared before)).2.length := by
        rw [handlePackets_length, shared, List.length_map]
      cases own : arrival.own with
      | true =>
          have step := expected_snoc_own same own undisturbed
          refine ⟨?_, step.2⟩
          rw [shared_snoc, alone_snoc_own before own, handlePackets_snoc, handlePackets_snoc,
            ownCalls_snoc _ _ _ _ lengths, if_pos own, List.map_append, List.map_append, calls]
          exact congrArg (_ ++ [·]) step.1
      | false =>
          have step := expected_snoc_other same own (ignored own)
          refine ⟨?_, step.2⟩
          rw [shared_snoc, alone_snoc_other before own, handlePackets_snoc,
            ownCalls_snoc _ _ _ _ lengths, own, if_neg Bool.false_ne_true, List.append_nil, calls]

/-- In every interleaving whose steps all keep apart, each forward packet yields the bytes it
yields when the forward packets are processed alone. -/
theorem forward_calls_alike (source destination : String × Nat) (arrivals : List Arrival)
    (forward : ∀ arrival ∈ arrivals, arrival.own = true →
      Travels source destination arrival.packet)
    (reverse : ∀ arrival ∈ arrivals, arrival.own = false →
      Travels destination source arrival.packet)
    (apart : ∀ before arrival, before ++ [arrival] <+: arrivals → KeepsApart before arrival) :
    (ownCalls arrivals (processPackets fresh (shared arrivals)).2).map yielded =
      (processPackets fresh (alone arrivals)).2.map yielded := by
  have keys : ∀ packet ∈ shared arrivals, packetKey packet =
      normaliseSessionKey source.1 source.2 destination.1 destination.2 := by
    intro packet member
    obtain ⟨arrival, known, rfl⟩ := List.mem_map.mp member
    cases own : arrival.own with
    | true => exact (forward arrival known own).key
    | false => exact (reverse arrival known own).key_back
  rw [(processPackets_sameKey fresh _ _ keys).2,
    (processPackets_sameKey fresh _ _ fun packet member =>
      keys packet (mem_shared_of_alone member)).2, streamOf_fresh]
  exact (ownCalls_alike arrivals apart).1

/-- A packet of the reverse direction. -/
def sampleReverse (sequenceNumber : Nat) (payload : Bytes) : TCPPacket where
  srcIp := "10.0.0.2"
  dstIp := "10.0.0.1"
  srcPort := 80
  dstPort := 1234
  sequenceNumber := sequenceNumber
  payload := payload
  timestamp := .utc .epoch

/-- A reply whose numbers lie above those of the request. -/
def sampleExchange : List Arrival :=
  [⟨samplePacket 100 [1], true⟩, ⟨sampleReverse 5000 [9], false⟩, ⟨samplePacket 101 [2], true⟩]

theorem sampleExchange_apart (before : List Arrival) (arrival : Arrival)
    (prefixed : before ++ [arrival] <+: sampleExchange) : KeepsApart before arrival := by
  have steps : ∀ before arrival, before ++ [arrival] <+:
      (([] ++ [⟨samplePacket 100 [1], true⟩]) ++ [⟨sampleReverse 5000 [9], false⟩]) ++
        [⟨samplePacket 101 [2], true⟩] → KeepsApart before arrival := by
    simp only [forall_step_snoc]
    refine ⟨⟨⟨?_, ?_⟩, ?_⟩, ?_⟩
    · intro before arrival prefixed
      exact absurd (List.prefix_nil.mp prefixed) (List.append_ne_nil_of_right_ne_nil _ (by simp))
    · refine ⟨fun other => (Bool.noConfusion other), ?_⟩
      intro _ _ seq _
      rfl
    · refine ⟨fun _ => ⟨by decide, by decide⟩, fun own => Bool.noConfusion own⟩
    · refine ⟨fun other => (Bool.noConfusion other), ?_⟩
      intro _ _ seq comes
      cases comes with
      | here => decide
      | past full later => exact absurd (by decide) full
  exact steps before arrival prefixed

theorem forward_calls_alike_sample :
    (ownCalls sampleExchange (processPackets fresh (shared sampleExchange)).2).map yielded =
      (processPackets fresh (alone sampleExchange)).2.map yielded :=
  forward_calls_alike ("10.0.0.1", 1234) ("10.0.0.2", 80) sampleExchange
    (by unfold Travels; decide) (by unfold Travels; decide) sampleExchange_apart

/-- The direction that speaks first sets the number for both. -/
theorem reverse_silences_forward :
    let arrivals : List Arrival :=
      [⟨sampleReverse 5000 [9], false⟩, ⟨samplePacket 100 [1], true⟩]
    (∀ arrival ∈ arrivals, arrival.own = true →
      Travels ("10.0.0.1", 1234) ("10.0.0.2", 80) arrival.packet) ∧
    (∀ arrival ∈ arrivals, arrival.own = false →
      Travels ("10.0.0.2", 80) ("10.0.0.1", 1234) arrival.packet) ∧
    (ownCalls arrivals (processPackets fresh (shared arrivals)).2).map yielded = [[]] ∧
    (processPackets fresh (alone arrivals)).2.map yielded = [[1]] :=
  ⟨by unfold Travels; decide, by unfold Travels; decide, by decide, by decide⟩

end SignalForge.TcpReassembler
