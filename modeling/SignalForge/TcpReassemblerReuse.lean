import SignalForge.TcpReassemblerInsertion

/-! A connection closed and opened again between the same endpoints. Closing marks the session
ended and leaves its expected number and its buffer under the key. -/

set_option autoImplicit false

namespace SignalForge.TcpReassembler

/-- Ours has everything theirs has. -/
def Extends (ours theirs : Waiting) : Prop := ∀ seq, ours seq = theirs seq ∨ theirs seq = none

theorem Extends.found {ours theirs : Waiting} (extends' : Extends ours theirs) {seq : Nat}
    {chunk : TimestampedChunk} (found : theirs seq = some chunk) : ours seq = some chunk := by
  rcases extends' seq with same | none
  · rw [same, found]
  · rw [found] at none
    cases none

theorem waitingAfter_extends {ours theirs : Waiting} (extends' : Extends ours theirs)
    (packets : List TCPPacket) :
    Extends (waitingAfter ours packets) (waitingAfter theirs packets) := by
  intro seq
  unfold waitingAfter
  cases lastCopy packets seq with
  | none => exact extends' seq
  | some packet => exact Or.inl rfl

/-- Where their release finds something, ours finds the same. Then both release the same chunks
exactly when they find the same where theirs ends. -/
theorem Released.same_iff {ours theirs : Waiting} {position ourLast theirLast : Nat}
    {ourChunks theirChunks : List TimestampedChunk}
    (our : Released ours position ourChunks ourLast)
    (their : Released theirs position theirChunks theirLast)
    (extends' : Extends ours theirs) :
    (ourChunks = theirChunks ↔ ours theirLast = theirs theirLast) ∧
      (ours theirLast = theirs theirLast → ourLast = theirLast) := by
  induction their generalizing ourChunks ourLast with
  | @stop position absent =>
      cases our with
      | stop absent' => simp only [absent, absent', and_self, implies_true]
      | blank found empty => simp [absent, found]
      | more found full rest => simp [absent, found]
  | @blank position chunk found empty =>
      have here := extends'.found found
      cases our with
      | stop absent =>
          rw [absent] at here
          cases here
      | blank found' empty' =>
          rw [here, Option.some.injEq] at found'
          simp only [found', found, here, and_self, implies_true]
      | more found' full rest =>
          rw [here, Option.some.injEq] at found'
          exact (full (found' ▸ empty)).elim
  | @more position last chunk chunks found full rest ih =>
      have here := extends'.found found
      cases our with
      | stop absent =>
          rw [absent] at here
          cases here
      | blank found' empty' =>
          rw [here, Option.some.injEq] at found'
          exact (full (found' ▸ empty')).elim
      | more found' full' rest' =>
          rw [here, Option.some.injEq] at found'
          subst found'
          have later := ih rest'
          exact ⟨by rw [← later.1, List.cons.injEq]; exact and_iff_right rfl, later.2⟩

/-- One packet in two sessions that expect the same number, one of which holds more. -/
theorem handlePacket_same_iff {ours theirs : Waiting} {our their : StreamState}
    (ourInv : Holding ours our) (theirInv : Holding theirs their)
    (same : our.expectedSequence = their.expectedSequence) (begun : their.expectedSequence ≠ 0)
    (extends' : Extends ours theirs)
    (here : ours their.expectedSequence = theirs their.expectedSequence) (packet : TCPPacket) :
    ((handlePacket our packet).2 = (handlePacket their packet).2 ↔
        arrive ours packet (handlePacket their packet).1.expectedSequence =
          arrive theirs packet (handlePacket their packet).1.expectedSequence) ∧
      ((handlePacket our packet).2 = (handlePacket their packet).2 →
        (handlePacket our packet).1.expectedSequence =
          (handlePacket their packet).1.expectedSequence) := by
  by_cases next : Next their.expectedSequence packet
  · obtain ⟨theirChunks, theirCall, theirReleased⟩ := handlePacket_next theirInv next
    have positive := List.length_pos_iff.mpr next.2
    have reached := theirReleased.le
    rw [← same] at next
    obtain ⟨ourChunks, ourCall, ourReleased⟩ := handlePacket_next ourInv next
    have both := ourReleased.same_iff theirReleased extends'
    rw [ourCall, theirCall, List.cons.injEq, arrive_of_ne ours (by omega),
      arrive_of_ne theirs (by omega), ← both.1]
    exact ⟨and_iff_right rfl, fun equal => both.2 (both.1.mp equal.2)⟩
  · have theirQuiet := handlePacket_quiet their packet next
    rw [← same] at next
    have ourQuiet := handlePacket_quiet our packet next
    rw [ourQuiet.1, theirQuiet.1, ourQuiet.2, theirQuiet.2, same,
      openedAt_of_begun packet begun]
    refine ⟨iff_of_true rfl ?_, fun _ => rfl⟩
    unfold arrive
    split
    · rfl
    · exact here

theorem append_singleton_inj {α : Type} {left right : List α} {last last' : α} :
    left ++ [last] = right ++ [last'] ↔ left = right ∧ last = last' := by
  rw [← List.concat_eq_append, ← List.concat_eq_append, List.concat_inj]

/-- Both runs yield the same chunks call by call exactly when, wherever theirs stands after a
prefix, ours has the same waiting there. -/
theorem handlePackets_same_iff {ours theirs : Waiting} {our their : StreamState}
    (ourInv : Holding ours our) (theirInv : Holding theirs their)
    (same : our.expectedSequence = their.expectedSequence) (begun : their.expectedSequence ≠ 0)
    (extends' : Extends ours theirs)
    (here : ours their.expectedSequence = theirs their.expectedSequence)
    (packets : List TCPPacket) :
    ((handlePackets our packets).2 = (handlePackets their packets).2 ↔
        ∀ before, before <+: packets →
          waitingAfter ours before (handlePackets their before).1.expectedSequence =
            waitingAfter theirs before (handlePackets their before).1.expectedSequence) ∧
      ((handlePackets our packets).2 = (handlePackets their packets).2 →
        (handlePackets our packets).1.expectedSequence =
          (handlePackets their packets).1.expectedSequence) ∧
      (handlePackets their packets).1.expectedSequence ≠ 0 := by
  induction packets using List.reverseRecOn with
  | nil =>
      refine ⟨iff_of_true rfl fun before prefixed => ?_, fun _ => same, begun⟩
      rw [List.prefix_nil.mp prefixed]
      exact here
  | append_singleton packets packet ih =>
      obtain ⟨agree, sameExpected, still⟩ := ih
      have ourHolding := handlePackets_holding ourInv packets
      have theirHolding := handlePackets_holding theirInv packets
      rw [forall_prefix_snoc, ← agree, handlePackets_snoc, handlePackets_snoc,
        waitingAfter_snoc, waitingAfter_snoc]
      refine ⟨?_, ?_, ?_⟩
      · rw [append_singleton_inj]
        refine and_congr_right fun sameCalls => ?_
        exact (handlePacket_same_iff ourHolding theirHolding (sameExpected sameCalls) still
          (waitingAfter_extends extends' packets)
          (agree.mp sameCalls packets (List.prefix_refl _)) packet).1
      · rw [append_singleton_inj]
        rintro ⟨sameCalls, sameCall⟩
        exact (handlePacket_same_iff ourHolding theirHolding (sameExpected sameCalls) still
          (waitingAfter_extends extends' packets)
          (agree.mp sameCalls packets (List.prefix_refl _)) packet).2 sameCall
      · have later := theirHolding.expected_le packet
        exact Nat.pos_iff_ne_zero.mp (Nat.lt_of_lt_of_le (Nat.pos_of_ne_zero still) later)

theorem handlePacket_next_ne (session : StreamState) (packet : TCPPacket)
    (next : Next session.expectedSequence packet) : (handlePacket session packet).2 ≠ [] := by
  have handled := handlePacket_opened session packet
  have positive := List.length_pos_iff.mpr next.2
  generalize handlePacket session packet = result at handled ⊢
  cases handled with
  | below old => exact absurd next.1 (Nat.ne_of_lt old)
  | ahead early => exact absurd next.1.symm (Nat.ne_of_lt early)
  | empty next' blank => exact (next.2 blank).elim
  | next next' full => exact List.cons_ne_nil _ _

/-- Sessions that expect different numbers yield the same only by yielding nothing. -/
theorem handlePackets_apart_iff (our their : StreamState) (ourBegun : our.expectedSequence ≠ 0)
    (theirBegun : their.expectedSequence ≠ 0)
    (apart : our.expectedSequence ≠ their.expectedSequence) (packets : List TCPPacket) :
    (handlePackets our packets).2 = (handlePackets their packets).2 ↔
      ∀ packet ∈ packets, packet.payload ≠ [] →
        packet.sequenceNumber ≠ our.expectedSequence ∧
          packet.sequenceNumber ≠ their.expectedSequence := by
  induction packets generalizing our their with
  | nil => exact iff_of_true rfl fun _ member => (List.not_mem_nil member).elim
  | cons packet rest ih =>
      simp only [handlePackets, List.cons.injEq, List.forall_mem_cons]
      by_cases ourNext : Next our.expectedSequence packet
      · have theirNot : ¬ Next their.expectedSequence packet := by
          intro next
          have starts := ourNext.1
          have starts' := next.1
          rw [openedAt_of_begun packet ourBegun] at starts
          rw [openedAt_of_begun packet theirBegun] at starts'
          exact apart (starts.symm.trans starts')
        have starts := ourNext.1
        rw [openedAt_of_begun packet ourBegun] at starts
        rw [(handlePacket_quiet their packet theirNot).1]
        exact iff_of_false (fun both => handlePacket_next_ne our packet ourNext both.1)
          fun none => (none.1 ourNext.2).1 starts
      · by_cases theirNext : Next their.expectedSequence packet
        · have starts := theirNext.1
          rw [openedAt_of_begun packet theirBegun] at starts
          rw [(handlePacket_quiet our packet ourNext).1]
          exact iff_of_false (fun both => handlePacket_next_ne their packet theirNext both.1.symm)
            fun none => (none.1 theirNext.2).2 starts
        · have ourQuiet := handlePacket_quiet our packet ourNext
          have theirQuiet := handlePacket_quiet their packet theirNext
          rw [openedAt_of_begun packet ourBegun] at ourQuiet
          rw [openedAt_of_begun packet theirBegun] at theirQuiet
          have later := ih (handlePacket our packet).1 (handlePacket their packet).1
            (by rwa [ourQuiet.2]) (by rwa [theirQuiet.2]) (by rwa [ourQuiet.2, theirQuiet.2])
          rw [ourQuiet.1, theirQuiet.1, later, ourQuiet.2, theirQuiet.2]
          unfold Next at ourNext theirNext
          rw [openedAt_of_begun packet ourBegun] at ourNext
          rw [openedAt_of_begun packet theirBegun] at theirNext
          refine and_congr_left fun _ => iff_of_true rfl fun full => ?_
          exact ⟨fun starts => ourNext ⟨starts, full⟩, fun starts => theirNext ⟨starts, full⟩⟩

/-- A packet that leaves a session that expects nothing yet as it is. -/
def unopening (packet : TCPPacket) : Bool :=
  packet.sequenceNumber = 0 ∧ packet.payload = []

/-- When what a closed connection left under its key does not show in the next one: it expects
nothing yet; or the next one starts at the number left, and wherever it then stands a segment
left behind has been replaced by one of its own; or it starts elsewhere, and carries no data at
the number left or at its own first number. -/
def Reusable (left : StreamState) (later : List TCPPacket) : Prop :=
  left.expectedSequence = 0 ∨
    match later.dropWhile unopening with
    | [] => True
    | first :: rest =>
        if first.sequenceNumber = left.expectedSequence then
          ∀ before, before ≠ [] → before <+: first :: rest →
            left.bufferedSegments.get? (expectedAfter before) = none ∨
              lastCopy before (expectedAfter before) ≠ none
        else
          ∀ packet ∈ first :: rest, packet.payload ≠ [] →
            packet.sequenceNumber ≠ left.expectedSequence ∧
              packet.sequenceNumber ≠ first.sequenceNumber

theorem unopening_iff (packet : TCPPacket) :
    unopening packet = true ↔ packet.sequenceNumber = 0 ∧ packet.payload = [] := by
  simp only [unopening, decide_eq_true_eq]

theorem handlePacket_unopening (session : StreamState)
    (settled : session = {} ∨ session.expectedSequence ≠ 0) (packet : TCPPacket)
    (blank : unopening packet = true) : handlePacket session packet = (session, []) := by
  obtain ⟨zero, empty⟩ := (unopening_iff packet).mp blank
  rcases settled with fresh | begun
  · simp only [handlePacket, fresh, zero, empty, ↓reduceIte, Nat.lt_irrefl]
  · have old : 0 < session.expectedSequence := Nat.pos_of_ne_zero begun
    simp only [handlePacket, begun, zero, old, ↓reduceIte]

theorem handlePackets_dropWhile (session : StreamState)
    (settled : session = {} ∨ session.expectedSequence ≠ 0) (packets : List TCPPacket) :
    (handlePackets session packets).2 = (packets.takeWhile unopening).map (fun _ => []) ++
      (handlePackets session (packets.dropWhile unopening)).2 := by
  induction packets with
  | nil => rfl
  | cons packet rest ih =>
      by_cases blank : unopening packet = true
      · rw [List.takeWhile_cons_of_pos blank, List.dropWhile_cons_of_pos blank, handlePackets,
          handlePacket_unopening session settled packet blank, ih, List.map_cons, List.cons_append]
      · rw [List.takeWhile_cons_of_neg blank, List.dropWhile_cons_of_neg blank, List.map_nil,
          List.nil_append]

theorem handlePackets_first (first : TCPPacket) (rest : List TCPPacket) :
    handlePackets {} (first :: rest) =
      handlePackets { expectedSequence := first.sequenceNumber } (first :: rest) := by
  simp only [handlePackets, handlePacket_first]

/-- The next connection starts at the number left. -/
theorem reuse_same_start (left : StreamState) {held : Waiting} (inv : Holding held left)
    (begun : left.expectedSequence ≠ 0) (first : TCPPacket) (rest : List TCPPacket)
    (same : first.sequenceNumber = left.expectedSequence) :
    (handlePackets left (first :: rest)).2 = (handlePackets {} (first :: rest)).2 ↔
      ∀ before, before ≠ [] → before <+: first :: rest →
        left.bufferedSegments.get? (expectedAfter before) = none ∨
          lastCopy before (expectedAfter before) ≠ none := by
  have own : Holding left.bufferedSegments.get? left := ⟨fun _ _ => rfl, inv.rest, inv.unopened⟩
  have fresh : Holding idle { expectedSequence := left.expectedSequence } :=
    ⟨fun _ _ => rfl, rfl, fun _ _ => rfl⟩
  rw [handlePackets_first, same, (handlePackets_same_iff own fresh rfl begun
    (fun _ => Or.inr rfl) inv.rest (first :: rest)).1]
  refine forall_congr' fun before => ?_
  cases before with
  | nil =>
      refine iff_of_true (fun _ => ?_) fun nonempty => (nonempty rfl).elim
      exact inv.rest
  | cons head earlier =>
      have drop : (head :: earlier ≠ [] → head :: earlier <+: first :: rest →
          left.bufferedSegments.get? (expectedAfter (head :: earlier)) = none ∨
            lastCopy (head :: earlier) (expectedAfter (head :: earlier)) ≠ none) ↔
          (head :: earlier <+: first :: rest →
            left.bufferedSegments.get? (expectedAfter (head :: earlier)) = none ∨
              lastCopy (head :: earlier) (expectedAfter (head :: earlier)) ≠ none) :=
        forall_prop_of_true (List.cons_ne_nil _ _)
      rw [drop]
      refine imp_congr_right fun prefixed => ?_
      have begins : head = first := (List.cons_prefix_cons.mp prefixed).1
      rw [expectedAfter, handlePackets_first, begins, same]
      unfold waitingAfter
      cases lastCopy (first :: earlier) _ with
      | none => simp [idle]
      | some packet => simp

/-- The next connection starts elsewhere. -/
theorem reuse_other_start (left : StreamState) (begun : left.expectedSequence ≠ 0)
    (first : TCPPacket) (rest : List TCPPacket) (opening : unopening first = false)
    (apart : first.sequenceNumber ≠ left.expectedSequence) :
    (handlePackets left (first :: rest)).2 = (handlePackets {} (first :: rest)).2 ↔
      ∀ packet ∈ first :: rest, packet.payload ≠ [] →
        packet.sequenceNumber ≠ left.expectedSequence ∧
          packet.sequenceNumber ≠ first.sequenceNumber := by
  by_cases zero : first.sequenceNumber = 0
  · -- a first packet numbered 0 opens the fresh session only by its data
    have full : first.payload ≠ [] := by
      intro empty
      rw [(unopening_iff first).mpr ⟨zero, empty⟩] at opening
      cases opening
    have next : Next ({} : StreamState).expectedSequence first := ⟨rfl, full⟩
    have notNext : ¬ Next left.expectedSequence first := by
      intro next
      exact apart (next.1.trans (openedAt_of_begun first begun))
    simp only [handlePackets, List.cons.injEq, (handlePacket_quiet left first notNext).1]
    refine iff_of_false (fun both => handlePacket_next_ne {} first next both.1.symm) ?_
    intro none
    exact (none first (List.mem_cons_self ..) full).2 rfl
  · rw [handlePackets_first]
    exact handlePackets_apart_iff left { expectedSequence := first.sequenceNumber } begun zero
      (fun same => apart same.symm) (first :: rest)

theorem reuse_iff_stream (left : StreamState) {held : Waiting} (inv : Holding held left)
    (later : List TCPPacket) :
    (handlePackets left later).2 = (handlePackets {} later).2 ↔ Reusable left later := by
  unfold Reusable
  by_cases unopened : left.expectedSequence = 0
  · have empty := OrderedDict.eq_empty_of_get? _ (inv.unopened unopened)
    have fresh : left = {} := by
      obtain ⟨expected, buffered⟩ := left
      subst unopened empty
      rfl
    rw [fresh]
    exact iff_of_true rfl (Or.inl rfl)
  · rw [handlePackets_dropWhile left (Or.inr unopened), handlePackets_dropWhile {} (Or.inl rfl),
      List.append_cancel_left_eq, or_iff_right unopened]
    have opening := List.head?_dropWhile_not unopening later
    cases begins : later.dropWhile unopening with
    | nil => exact iff_of_true rfl trivial
    | cons first rest =>
        rw [begins, List.head?_cons] at opening
        by_cases same : first.sequenceNumber = left.expectedSequence
        · simp only [same, ↓reduceIte]
          exact reuse_same_start left inv unopened first rest same
        · simp only [same, ↓reduceIte]
          exact reuse_other_start left unopened first rest opening same

/-- The session kept under a key once a packet of it with the fin flag has been processed. -/
theorem closed_session_kept (history : List TCPPacket) (closing : TCPPacket)
    (closed : closing.fin = true) :
    ∃ session, (processPackets fresh (history ++ [closing])).1.get? (packetKey closing) =
        some session ∧ session.endTimestamp = some closing.timestamp := by
  rw [processPackets_append]
  simp only [processPackets, processPacket, closed, ↓reduceIte, SessionTracker.closeSession,
    OrderedDict.get?_set_self]
  exact ⟨_, rfl, rfl⟩

/-- After a connection is closed its session stays under the key, marked ended, and later
packets between the same endpoints yield what a fresh reassembler would, call by call, exactly
when nothing left there shows. -/
theorem reuse_iff (history : List TCPPacket) (closing : TCPPacket) (closed : closing.fin = true)
    (later : List TCPPacket)
    (sameKey : ∀ packet ∈ later, packetKey packet = packetKey closing) :
    (∃ session, (processPackets fresh (history ++ [closing])).1.get? (packetKey closing) =
        some session ∧ session.endTimestamp = some closing.timestamp) ∧
      ((processPackets (processPackets fresh (history ++ [closing])).1 later).2 =
          (processPackets fresh later).2 ↔
        Reusable (streamOf (processPackets fresh (history ++ [closing])).1 (packetKey closing))
          later) := by
  refine ⟨closed_session_kept history closing closed, ?_⟩
  rw [(processPackets_sameKey _ _ later sameKey).2,
    (processPackets_sameKey fresh _ later sameKey).2, streamOf_fresh, processPackets_stream,
    streamOf_fresh]
  exact reuse_iff_stream _ (handlePackets_holding holding_fresh _) later

/-- The last packet of a connection. -/
def sampleClosing : TCPPacket := { samplePacket 100 [1] with fin := true }

theorem reuse_iff_sample :
    (∃ session, (processPackets fresh ([] ++ [sampleClosing])).1.get? (packetKey sampleClosing) =
        some session ∧ session.endTimestamp = some sampleClosing.timestamp) ∧
      ((processPackets (processPackets fresh ([] ++ [sampleClosing])).1 [samplePacket 50 [2]]).2 =
          (processPackets fresh [samplePacket 50 [2]]).2 ↔
        Reusable (streamOf (processPackets fresh ([] ++ [sampleClosing])).1
          (packetKey sampleClosing)) [samplePacket 50 [2]]) :=
  reuse_iff [] sampleClosing rfl [samplePacket 50 [2]] (by decide)

/-- The next connection starts below where the closed one ended, and is taken for a
retransmission. -/
theorem reused_connection_silenced :
    sampleClosing.fin = true ∧ packetKey (samplePacket 50 [2]) = packetKey sampleClosing ∧
      (processPackets fresh [samplePacket 50 [2]]).2.map yielded = [[2]] ∧
      (processPackets (processPackets fresh [sampleClosing]).1 [samplePacket 50 [2]]).2.map
        yielded = [[]] :=
  ⟨rfl, by decide, by decide, by decide⟩

end SignalForge.TcpReassembler
