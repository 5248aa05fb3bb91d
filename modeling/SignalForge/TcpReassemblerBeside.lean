import Mathlib.Data.List.Induction
import SignalForge.TcpReassemblerWaiting

/-! Two runs side by side: a connection that shares its session with other packets, and the
same connection alone. -/

set_option autoImplicit false

namespace SignalForge.TcpReassembler

/-- The bytes of the last copy at a sequence number. -/
def lastBytes (packets : List TCPPacket) (seq : Nat) : Bytes :=
  ((lastCopy packets seq).map TCPPacket.payload).getD []

/-- The bytes waiting at a sequence number, none where nothing waits. -/
def bytesAt (waiting : Waiting) (seq : Nat) : Bytes :=
  ((waiting seq).map TimestampedChunk.data).getD []

theorem bytesAt_waitingAfter (packets : List TCPPacket) :
    bytesAt (waitingAfter idle packets) = lastBytes packets := by
  funext seq
  unfold bytesAt waitingAfter lastBytes
  cases lastCopy packets seq <;> rfl

theorem lastBytes_snoc (packets : List TCPPacket) (packet : TCPPacket) (seq : Nat) :
    lastBytes (packets ++ [packet]) seq =
      if packet.sequenceNumber = seq then packet.payload else lastBytes packets seq := by
  unfold lastBytes
  rw [lastCopy_snoc]
  split <;> rfl

/-- The numbers a release comes to: it goes on behind the bytes it finds at each. -/
inductive Comes (bytes : Nat → Bytes) : Nat → Nat → Prop
  | here {position : Nat} : Comes bytes position position
  | past {position seq : Nat} (full : bytes position ≠ [])
      (later : Comes bytes (position + (bytes position).length) seq) : Comes bytes position seq

/-- The bytes released from a position on. -/
inductive ReleasedBytes (bytes : Nat → Bytes) : Nat → Bytes → Nat → Prop
  | stop {position : Nat} (nothing : bytes position = []) : ReleasedBytes bytes position [] position
  | more {position last : Nat} {data : Bytes} (full : bytes position ≠ [])
      (rest : ReleasedBytes bytes (position + (bytes position).length) data last) :
      ReleasedBytes bytes position (bytes position ++ data) last

theorem Released.bytes {waiting : Waiting} {position last : Nat}
    {chunks : List TimestampedChunk} (released : Released waiting position chunks last) :
    ReleasedBytes (bytesAt waiting) position (yielded chunks) last := by
  induction released with
  | stop absent =>
      refine .stop ?_
      simp only [bytesAt, absent, Option.map_none, Option.getD_none]
  | blank found empty =>
      rw [yielded_cons, empty]
      refine .stop ?_
      simp only [bytesAt, found, Option.map_some, Option.getD_some, empty]
  | @more position last chunk chunks found full rest ih =>
      have here : bytesAt waiting position = chunk.data := by
        simp only [bytesAt, found, Option.map_some, Option.getD_some]
      rw [yielded_cons, ← here]
      rw [← here] at full ih
      exact .more full ih

/-- Where both find the same bytes at every number they come to, both release the same. -/
theorem ReleasedBytes.agree {ours theirs : Nat → Bytes} {position ourLast theirLast : Nat}
    {ourData theirData : Bytes} (our : ReleasedBytes ours position ourData ourLast)
    (their : ReleasedBytes theirs position theirData theirLast)
    (same : ∀ seq, Comes theirs position seq → ours seq = theirs seq) :
    ourData = theirData ∧ ourLast = theirLast := by
  induction our generalizing theirData theirLast with
  | stop nothing =>
      have here := same _ .here
      cases their with
      | stop => exact ⟨rfl, rfl⟩
      | more full rest => exact (full (by rw [← here, nothing])).elim
  | @more position last data full rest ih =>
      have here := same _ .here
      cases their with
      | stop nothing => exact (full (by rw [here, nothing])).elim
      | more full' rest' =>
          rw [here] at ih ⊢
          have later := ih rest' fun seq comes => same seq (.past full' comes)
          exact ⟨by rw [later.1], later.2⟩

/-- Where what we find differs only by being nothing, releasing the same bytes means finding
the same at every number. -/
theorem ReleasedBytes.found {ours theirs : Nat → Bytes} {position ourLast theirLast : Nat}
    {ourData theirData : Bytes} (our : ReleasedBytes ours position ourData ourLast)
    (their : ReleasedBytes theirs position theirData theirLast)
    (missing : ∀ seq, ours seq = theirs seq ∨ ours seq = []) (same : ourData = theirData)
    {seq : Nat} (comes : Comes theirs position seq) : ours seq = theirs seq := by
  induction comes generalizing ourData theirData ourLast theirLast with
  | @here position =>
      rcases missing position with equal | nothing
      · exact equal
      · cases their with
        | stop nothing' => rw [nothing, nothing']
        | more full rest =>
            cases our with
            | stop => exact (full (List.append_eq_nil_iff.mp same.symm).1).elim
            | more full' => exact (full' nothing).elim
  | @past position seq full later ih =>
      cases their with
      | stop nothing => exact (full nothing).elim
      | more _ rest =>
          cases our with
          | stop => exact (full (List.append_eq_nil_iff.mp same.symm).1).elim
          | more full' rest' =>
              have here := (missing position).resolve_right full'
              rw [here] at same rest'
              exact ih rest' rest (List.append_cancel_left same)

/-- A packet of a shared session, and whether it is one of those compared. -/
structure Arrival where
  packet : TCPPacket
  own : Bool

def shared (arrivals : List Arrival) : List TCPPacket := arrivals.map Arrival.packet

def alone (arrivals : List Arrival) : List TCPPacket :=
  (arrivals.filter Arrival.own).map Arrival.packet

theorem shared_snoc (before : List Arrival) (arrival : Arrival) :
    shared (before ++ [arrival]) = shared before ++ [arrival.packet] := by
  simp only [shared, List.map_append, List.map_cons, List.map_nil]

theorem alone_snoc_own (before : List Arrival) {arrival : Arrival} (own : arrival.own = true) :
    alone (before ++ [arrival]) = alone before ++ [arrival.packet] := by
  simp only [alone, List.filter_append, List.filter_cons, own, ↓reduceIte, List.filter_nil,
    List.map_append, List.map_cons, List.map_nil]

theorem alone_snoc_other (before : List Arrival) {arrival : Arrival} (other : arrival.own = false) :
    alone (before ++ [arrival]) = alone before := by
  simp only [alone, List.filter_append, List.filter_cons, other, Bool.false_eq_true, ↓reduceIte,
    List.filter_nil, List.append_nil]

theorem handlePackets_snoc (session : StreamState) (packets : List TCPPacket)
    (packet : TCPPacket) :
    handlePackets session (packets ++ [packet]) =
      ((handlePacket (handlePackets session packets).1 packet).1,
        (handlePackets session packets).2 ++
          [(handlePacket (handlePackets session packets).1 packet).2]) := by
  induction packets generalizing session with
  | nil => rfl
  | cons first rest ih => simp only [List.cons_append, handlePackets, ih]

theorem handlePackets_length (session : StreamState) (packets : List TCPPacket) :
    (handlePackets session packets).2.length = packets.length := by
  induction packets generalizing session with
  | nil => rfl
  | cons first rest ih => simp only [handlePackets, List.length_cons, ih]

theorem handlePackets_holding {before : Waiting} {session : StreamState}
    (inv : Holding before session) (packets : List TCPPacket) :
    Holding (waitingAfter before packets) (handlePackets session packets).1 := by
  induction packets using List.reverseRecOn with
  | nil => exact inv
  | append_singleton packets packet ih =>
      rw [handlePackets_snoc, waitingAfter_snoc]
      exact ih.handlePacket packet

/-- The number a fresh reassembler expects after some packets of one connection. -/
def expectedAfter (packets : List TCPPacket) : Nat :=
  (handlePackets {} packets).1.expectedSequence

/-- The packet would neither be yielded nor set the number expected. -/
def Ignored (expected : Nat) (packet : TCPPacket) : Prop :=
  openedAt expected packet = expected ∧ ¬ Next expected packet

/-- Wherever data arrives in turn, the last bytes at each number it lets reassembly come to
are those of the compared packets. -/
def Undisturbed (before : List Arrival) (arrival : Arrival) : Prop :=
  arrival.own = true → Next (expectedAfter (alone before)) arrival.packet →
    ∀ seq, Comes (lastBytes (alone before))
      (arrival.packet.sequenceNumber + arrival.packet.payload.length) seq →
      lastBytes (shared before) seq = lastBytes (alone before) seq

/-- What the last arrival yields in the shared run, and in the run of its own. -/
def sharedCall (before : List Arrival) (arrival : Arrival) : Bytes :=
  yielded (handlePacket (handlePackets {} (shared before)).1 arrival.packet).2

def aloneCall (before : List Arrival) (arrival : Arrival) : Bytes :=
  yielded (handlePacket (handlePackets {} (alone before)).1 arrival.packet).2

section

variable {before : List Arrival} {arrival : Arrival}

theorem expected_snoc_other (same : expectedAfter (shared before) = expectedAfter (alone before))
    (other : arrival.own = false)
    (ignored : Ignored (expectedAfter (alone before)) arrival.packet) :
    sharedCall before arrival = [] ∧
      expectedAfter (shared (before ++ [arrival])) =
        expectedAfter (alone (before ++ [arrival])) := by
  have quiet := handlePacket_quiet (handlePackets {} (shared before)).1 arrival.packet (by
    change ¬ Next (expectedAfter (shared before)) arrival.packet
    rw [same]
    exact ignored.2)
  refine ⟨?_, ?_⟩
  · unfold sharedCall
    rw [quiet.1, yielded_nil]
  · rw [alone_snoc_other before other, shared_snoc, expectedAfter, handlePackets_snoc, quiet.2]
    change openedAt (expectedAfter (shared before)) arrival.packet = _
    rw [same, ignored.1]

/-- The two calls of the next packet of the compared run, side by side. -/
theorem calls_next (same : expectedAfter (shared before) = expectedAfter (alone before))
    (next : Next (expectedAfter (alone before)) arrival.packet) :
    ∃ ourData theirData,
      ReleasedBytes (lastBytes (shared before))
        (arrival.packet.sequenceNumber + arrival.packet.payload.length) ourData
        (handlePacket (handlePackets {} (shared before)).1 arrival.packet).1.expectedSequence ∧
      ReleasedBytes (lastBytes (alone before))
        (arrival.packet.sequenceNumber + arrival.packet.payload.length) theirData
        (handlePacket (handlePackets {} (alone before)).1 arrival.packet).1.expectedSequence ∧
      sharedCall before arrival = arrival.packet.payload ++ ourData ∧
      aloneCall before arrival = arrival.packet.payload ++ theirData := by
  have ours : Next (expectedAfter (shared before)) arrival.packet := by rwa [same]
  obtain ⟨chunks, call, released⟩ :=
    handlePacket_next (handlePackets_holding holding_fresh (shared before)) ours
  obtain ⟨chunks', call', released'⟩ :=
    handlePacket_next (handlePackets_holding holding_fresh (alone before)) next
  have bytes := released.bytes
  have bytes' := released'.bytes
  rw [bytesAt_waitingAfter] at bytes bytes'
  refine ⟨_, _, bytes, bytes', ?_, ?_⟩
  · unfold sharedCall
    rw [call, yielded_cons]
    rfl
  · unfold aloneCall
    rw [call', yielded_cons]
    rfl

theorem expected_snoc_own (same : expectedAfter (shared before) = expectedAfter (alone before))
    (own : arrival.own = true) (undisturbed : Undisturbed before arrival) :
    sharedCall before arrival = aloneCall before arrival ∧
      expectedAfter (shared (before ++ [arrival])) =
        expectedAfter (alone (before ++ [arrival])) := by
  rw [shared_snoc, alone_snoc_own before own, expectedAfter, expectedAfter, handlePackets_snoc,
    handlePackets_snoc]
  by_cases next : Next (expectedAfter (alone before)) arrival.packet
  · obtain ⟨ourData, theirData, our, their, call, call'⟩ := calls_next same next
    have agree := our.agree their (undisturbed own next)
    exact ⟨by rw [call, call', agree.1], agree.2⟩
  · have quiet := handlePacket_quiet (handlePackets {} (alone before)).1 arrival.packet next
    rw [← same] at next
    have quiet' := handlePacket_quiet (handlePackets {} (shared before)).1 arrival.packet next
    unfold sharedCall aloneCall
    rw [quiet.1, quiet'.1, quiet.2, quiet'.2]
    change _ ∧ openedAt (expectedAfter (shared before)) _ = openedAt (expectedAfter (alone before)) _
    exact ⟨rfl, by rw [same]⟩

end

end SignalForge.TcpReassembler
