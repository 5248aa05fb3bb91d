import SignalForge.MessageDecoder

/-! Framing does not depend on how the stream was cut into chunks, and every message carries
the time of its first byte. -/

set_option autoImplicit false

namespace SignalForge.MessageDecoder

open Framing

/-- Marks in ascending order, the first at the start, each covering the bytes up to the
next with its timestamp. -/
inductive Covers : Nat → List (Nat × Datetime) → List Datetime → Prop
  | nil (start : Nat) : Covers start [] []
  | cons {start : Nat} {marks : List (Nat × Datetime)} {times : List Datetime} (width : Nat)
      (timestamp : Datetime) (wide : 0 < width) (later : Covers (start + width) marks times) :
      Covers start ((start, timestamp) :: marks) (List.replicate width timestamp ++ times)

namespace Covers

theorem concat {start : Nat} {marks : List (Nat × Datetime)} {times : List Datetime}
    (covers : Covers start marks times) (width : Nat) (timestamp : Datetime) (wide : 0 < width) :
    Covers start (marks ++ [(start + times.length, timestamp)])
      (times ++ List.replicate width timestamp) := by
  induction covers with
  | nil start =>
      have alone : Covers start [(start, timestamp)] (List.replicate width timestamp ++ []) :=
        .cons width timestamp wide (.nil _)
      rwa [List.append_nil] at alone
  | cons earlier time positive later ih =>
      rw [List.cons_append, List.append_assoc, List.length_append, List.length_replicate,
        ← Nat.add_assoc]
      exact .cons earlier time positive ih

theorem head {marks : List (Nat × Datetime)} {times : List Datetime}
    (covers : Covers 0 marks times) (nonempty : times ≠ []) :
    ∃ timestamp rest, marks = (0, timestamp) :: rest ∧ times[0]? = some timestamp := by
  cases covers with
  | nil => exact absurd rfl nonempty
  | cons width timestamp wide _ =>
      refine ⟨timestamp, _, rfl, ?_⟩
      rw [List.getElem?_append_left (by rw [List.length_replicate]; exact wide),
        List.getElem?_replicate_of_lt wide]

/-- Marks past the consumed bytes keep their order and their bytes. -/
theorem rebase_above {start consumed : Nat} {marks : List (Nat × Datetime)}
    {times : List Datetime} (covers : Covers start marks times) (above : consumed < start)
    (rebased : List (Nat × Datetime)) :
    ∃ moved, marks.foldl (rebase consumed) rebased = rebased ++ moved ∧
      Covers (start - consumed) moved times := by
  induction covers generalizing rebased with
  | nil start => exact ⟨[], (List.append_nil _).symm, .nil _⟩
  | cons width timestamp wide later ih =>
      rename_i start marks times
      have kept : ¬ start ≤ consumed := by omega
      have further : consumed < start + width := by omega
      obtain ⟨moved, folded, covered⟩ :=
        ih further (rebased ++ [(start - consumed, timestamp)])
      refine ⟨(start - consumed, timestamp) :: moved, ?_, ?_⟩
      · rw [List.foldl_cons, rebase, if_neg kept, folded, List.append_assoc]
        rfl
      · rw [show start + width - consumed = start - consumed + width by omega] at covered
        exact .cons width timestamp wide covered

/-- Consuming fewer bytes than are covered leaves the bytes after them covered from zero. -/
theorem rebase_drop {start consumed : Nat} {marks : List (Nat × Datetime)}
    {times : List Datetime} (covers : Covers start marks times) (reached : start ≤ consumed)
    (fewer : consumed < start + times.length) (rebased : List (Nat × Datetime)) :
    Covers 0 (marks.foldl (rebase consumed) rebased) (times.drop (consumed - start)) := by
  induction covers generalizing rebased with
  | nil start =>
      rw [List.length_nil] at fewer
      omega
  | cons width timestamp wide later ih =>
      rename_i start marks times
      rw [List.foldl_cons, rebase, if_pos reached]
      rw [List.length_append, List.length_replicate] at fewer
      by_cases past : start + width ≤ consumed
      · -- the whole stretch of this mark is consumed, a later one collapses over it
        have covered := ih past (by omega) [(0, timestamp)]
        have whole : (List.replicate width timestamp).length ≤ consumed - start := by
          rw [List.length_replicate]
          omega
        rwa [List.drop_append, List.drop_eq_nil_of_le whole, List.nil_append,
          List.length_replicate,
          show consumed - start - width = consumed - (start + width) by omega]
      · have above : consumed < start + width := by omega
        obtain ⟨moved, folded, covered⟩ := rebase_above later above [(0, timestamp)]
        have partly : consumed - start ≤ (List.replicate width timestamp).length := by
          rw [List.length_replicate]
          omega
        rw [folded, List.drop_append_of_le_length partly, List.drop_replicate,
          show width - (consumed - start) = start + width - consumed by omega]
        rw [← Nat.zero_add (start + width - consumed)] at covered
        exact .cons _ timestamp (by omega) covered

end Covers

/-- The time of each byte of the chunks. -/
def byteTimes (chunks : List TimestampedChunk) : List Datetime :=
  chunks.flatMap fun chunk => List.replicate chunk.data.length chunk.timestamp

theorem length_byteTimes (chunks : List TimestampedChunk) :
    (byteTimes chunks).length = (chunks.flatMap TimestampedChunk.data).length := by
  simp only [byteTimes, List.length_flatMap, List.length_replicate]

/-- Consecutive messages from an offset on, each with the time of its first byte. -/
def Stamped (times : List Datetime) : Nat → List TimestampedMessage → Prop
  | _, [] => True
  | start, message :: rest =>
      times[start]? = some message.timestamp ∧ Stamped times (start + message.data.length) rest

theorem Stamped.mono {times : List Datetime} {start : Nat} {messages : List TimestampedMessage}
    (stamped : Stamped times start messages) (more : List Datetime) :
    Stamped (times ++ more) start messages := by
  induction messages generalizing start with
  | nil => trivial
  | cons message rest ih =>
      obtain ⟨first, later⟩ := stamped
      obtain ⟨inside, _⟩ := List.getElem?_eq_some_iff.mp first
      exact ⟨by rw [List.getElem?_append_left inside, first], ih later⟩

theorem stamped_append (times : List Datetime) (start : Nat)
    (first second : List TimestampedMessage) :
    Stamped times start (first ++ second) ↔ Stamped times start first ∧
      Stamped times (start + (first.flatMap TimestampedMessage.data).length) second := by
  induction first generalizing start with
  | nil => simp only [List.nil_append, Stamped, List.flatMap_nil, List.length_nil, Nat.add_zero,
      true_and]
  | cons message rest ih =>
      simp only [List.cons_append, Stamped, ih, List.flatMap_cons, List.length_append, and_assoc,
        Nat.add_assoc]

theorem stamped_drop (times : List Datetime) (skipped start : Nat)
    (messages : List TimestampedMessage) :
    Stamped (times.drop skipped) start messages ↔ Stamped times (skipped + start) messages := by
  induction messages generalizing start with
  | nil => exact Iff.rfl
  | cons message rest ih => simp only [Stamped, List.getElem?_drop, ih, Nat.add_assoc]

/-- The decoder's marks cover its buffer. -/
structure Marked (decoder : MessageDecoder) (times : List Datetime) : Prop where
  covers : Covers 0 decoder.marks times
  length_eq : times.length = decoder.buffer.length

theorem marked_empty : Marked {} [] := ⟨.nil 0, rfl⟩

theorem Marked.accept {decoder : MessageDecoder} {times : List Datetime}
    (marked : Marked decoder times) (chunk : TimestampedChunk) :
    Marked (decoder.accept chunk)
      (times ++ List.replicate chunk.data.length chunk.timestamp) := by
  unfold MessageDecoder.accept
  split
  · rename_i blank
    rw [blank, List.length_nil, List.replicate_zero, List.append_nil]
    exact marked
  · rename_i full
    constructor
    · rw [← marked.length_eq, ← Nat.zero_add times.length]
      exact marked.covers.concat _ _ (List.length_pos_iff.mpr full)
    · rw [List.length_append, List.length_replicate, marked.length_eq, List.length_append]

theorem accept_buffer (decoder : MessageDecoder) (chunk : TimestampedChunk) :
    (decoder.accept chunk).buffer = decoder.buffer ++ chunk.data := by
  unfold accept
  split
  · rename_i blank
    rw [blank, List.append_nil]
  · rfl

theorem Marked.firstByteTimestamp {decoder : MessageDecoder} {times : List Datetime}
    (marked : Marked decoder times) (nonempty : decoder.buffer ≠ []) :
    ∃ timestamp, decoder.firstByteTimestamp = .ok timestamp ∧ times[0]? = some timestamp := by
  have covered : times ≠ [] := by
    intro none
    have := marked.length_eq
    rw [none, List.length_nil] at this
    exact nonempty (List.eq_nil_of_length_eq_zero this.symm)
  obtain ⟨timestamp, rest, atFront, first⟩ := marked.covers.head covered
  exact ⟨timestamp, by rw [MessageDecoder.firstByteTimestamp, atFront], first⟩

theorem Marked.advance {decoder : MessageDecoder} {times : List Datetime}
    (marked : Marked decoder times) (consumed : Nat) :
    Marked (advanceMarks { decoder with buffer := decoder.buffer.drop consumed } consumed)
      (times.drop consumed) := by
  have sameLength := marked.length_eq
  unfold advanceMarks
  split
  · rename_i emptied
    have none : times.drop consumed = [] := by
      rw [List.drop_eq_nil_iff, sameLength]
      exact List.drop_eq_nil_iff.mp emptied
    rw [none]
    exact ⟨.nil 0, by rw [emptied]; rfl⟩
  · rename_i kept
    have fewer : consumed < times.length := by
      rw [sameLength]
      by_contra all
      exact kept (List.drop_eq_nil_of_le (by omega))
    constructor
    · exact marked.covers.rebase_drop (Nat.zero_le _) (by omega) []
    · rw [List.length_drop, List.length_drop, sameLength]

theorem advanceMarks_buffer (decoder : MessageDecoder) (consumed : Nat) :
    (decoder.advanceMarks consumed).buffer = decoder.buffer := by
  unfold advanceMarks
  split <;> rfl

/-- What consuming a generator over a marked decoder yields and leaves. -/
structure Frames (decoder : MessageDecoder) (times : List Datetime)
    (messages : List TimestampedMessage) (left : MessageDecoder) : Prop where
  split : SplitAfter headerTerminator decoder.buffer (messages.map TimestampedMessage.data)
    left.buffer
  stamped : Stamped times 0 messages
  marked : Marked left (times.drop (messages.flatMap TimestampedMessage.data).length)

/-- With a turn for every buffered byte the loop takes every terminated message. -/
theorem feedLoop_frames (turns : Nat) (decoder : MessageDecoder) (times : List Datetime)
    (marked : Marked decoder times) (enough : decoder.buffer.length ≤ turns) :
    ∃ messages left, feedLoop turns decoder = ⟨messages, .ok left⟩ ∧
      Frames decoder times messages left := by
  have nonempty : headerTerminator ≠ [] := by decide
  induction turns generalizing decoder times with
  | zero =>
      have blank : decoder.buffer = [] := List.eq_nil_of_length_eq_zero (Nat.le_zero.mp enough)
      refine ⟨[], decoder, rfl, .rest ?_, trivial, marked⟩
      rw [blank]
      exact find?_eq_none nonempty rfl
  | succ turns ih =>
      simp only [feedLoop]
      split
      · rename_i absent
        exact ⟨[], decoder, rfl, .rest (find?_eq_none nonempty absent), trivial, marked⟩
      · rename_i boundary found
        have leftmost := find?_eq_some found
        have inside := leftmost.here.end_le nonempty
        have wide : 0 < headerTerminator.length := by decide
        obtain ⟨observedAt, reads, first⟩ := marked.firstByteTimestamp (by
          intro blank
          rw [blank, List.length_nil] at inside
          omega)
        have advanced := marked.advance (boundary + headerTerminator.length)
        obtain ⟨messages, left, looped, frames⟩ := ih _ _ advanced (by
          rw [advanceMarks_buffer, List.length_drop]
          omega)
        have taken : (decoder.buffer.take (boundary + headerTerminator.length)).length =
            boundary + headerTerminator.length := List.length_take_of_le inside
        refine ⟨⟨observedAt, decoder.buffer.take (boundary + headerTerminator.length)⟩ :: messages,
          left, by rw [reads, looped]; rfl, ?_, ?_, ?_⟩
        · have later := frames.split
          rw [advanceMarks_buffer] at later
          exact .piece leftmost later
        · refine ⟨first, ?_⟩
          rw [taken, Nat.zero_add, ← Nat.add_zero (boundary + headerTerminator.length),
            ← stamped_drop]
          exact frames.stamped
        · have remaining := frames.marked
          rw [List.drop_drop] at remaining
          rw [List.flatMap_cons, List.length_append, taken]
          exact remaining

/-- The decoder after chunks, and the messages framed so far. -/
structure Framed (chunks : List TimestampedChunk) (messages : List TimestampedMessage)
    (decoder : MessageDecoder) : Prop where
  split : SplitAfter headerTerminator (chunks.flatMap TimestampedChunk.data)
    (messages.map TimestampedMessage.data) decoder.buffer
  stamped : Stamped (byteTimes chunks) 0 messages
  marked : Marked decoder
    ((byteTimes chunks).drop (messages.flatMap TimestampedMessage.data).length)

theorem framed_nil : Framed [] [] {} where
  split := .rest (find?_eq_none (by decide) rfl)
  stamped := trivial
  marked := marked_empty

theorem Framed.consumed_le {chunks : List TimestampedChunk} {messages : List TimestampedMessage}
    {decoder : MessageDecoder} (framed : Framed chunks messages decoder) :
    (messages.flatMap TimestampedMessage.data).length ≤ (byteTimes chunks).length := by
  have whole := congrArg List.length framed.split.flatten_append
  rw [List.length_append, ← List.flatMap_def] at whole
  rw [length_byteTimes]
  omega

/-- One more chunk. -/
theorem Framed.feed {chunks : List TimestampedChunk} {messages : List TimestampedMessage}
    {decoder : MessageDecoder} (framed : Framed chunks messages decoder)
    (chunk : TimestampedChunk) :
    ∃ more left, decoder.feed chunk = ⟨more, .ok left⟩ ∧
      Framed (chunks ++ [chunk]) (messages ++ more) left := by
  have accepted := framed.marked.accept chunk
  obtain ⟨more, left, looped, frames⟩ := feedLoop_frames _ _ _ accepted (Nat.le_refl _)
  have times : byteTimes (chunks ++ [chunk]) =
      byteTimes chunks ++ List.replicate chunk.data.length chunk.timestamp := by
    simp only [byteTimes, List.flatMap_append, List.flatMap_cons, List.flatMap_nil,
      List.append_nil]
  have dropped : (byteTimes (chunks ++ [chunk])).drop
      (messages.flatMap TimestampedMessage.data).length =
      (byteTimes chunks).drop (messages.flatMap TimestampedMessage.data).length ++
        List.replicate chunk.data.length chunk.timestamp := by
    rw [times, List.drop_append_of_le_length framed.consumed_le]
  refine ⟨more, left, looped, ?_, ?_, ?_⟩
  · have next := frames.split
    rw [accept_buffer] at next
    rw [List.flatMap_append, List.map_append, List.flatMap_singleton]
    exact framed.split.append (by decide) next
  · have later := frames.stamped
    rw [← dropped, stamped_drop, Nat.add_zero] at later
    rw [stamped_append, Nat.zero_add]
    refine ⟨?_, later⟩
    rw [times]
    exact framed.stamped.mono _
  · have remaining := frames.marked
    rw [← dropped, List.drop_drop] at remaining
    rw [List.flatMap_append, List.length_append]
    exact remaining

theorem feedAll_framed (chunks fed : List TimestampedChunk) (messages : List TimestampedMessage)
    (decoder : MessageDecoder) (framed : Framed fed messages decoder) :
    ∃ more left, feedAll decoder chunks = ⟨more, .ok left⟩ ∧
      Framed (fed ++ chunks) (messages ++ more) left := by
  induction chunks generalizing fed messages decoder with
  | nil =>
      refine ⟨[], decoder, rfl, ?_⟩
      rw [List.append_nil, List.append_nil]
      exact framed
  | cons chunk rest ih =>
      obtain ⟨first, between, here, stepped⟩ := framed.feed chunk
      obtain ⟨later, left, there, final⟩ := ih _ _ _ stepped
      refine ⟨first ++ later, left, ?_, ?_⟩
      · simp only [feedAll, here, Generated.bind, there]
      · rw [List.append_assoc, List.append_assoc] at final
        exact final

/-- A decoder whose marks cover its buffer never raises, and they still do afterwards. -/
theorem Marked.feedAll {decoder : MessageDecoder} {times : List Datetime}
    (marked : Marked decoder times) (chunks : List TimestampedChunk) :
    ∃ messages left later, MessageDecoder.feedAll decoder chunks = ⟨messages, .ok left⟩ ∧
      Marked left later := by
  induction chunks generalizing decoder times with
  | nil => exact ⟨[], decoder, times, rfl, marked⟩
  | cons chunk rest ih =>
      obtain ⟨first, between, looped, frames⟩ :=
        feedLoop_frames _ _ _ (marked.accept chunk) (Nat.le_refl _)
      obtain ⟨messages, left, later, fed, final⟩ := ih frames.marked
      refine ⟨first ++ messages, left, later, ?_, final⟩
      rw [MessageDecoder.feedAll, MessageDecoder.feed, looped, Generated.bind_of_ok rfl, fed]

/-- A decoder with an empty buffer is a fresh one. -/
theorem Marked.eq_fresh {decoder : MessageDecoder} {times : List Datetime}
    (marked : Marked decoder times) (blank : decoder.buffer = []) : decoder = {} := by
  have covers := marked.covers
  have none : times = [] := List.eq_nil_of_length_eq_zero (by rw [marked.length_eq, blank]; rfl)
  obtain ⟨buffer, marks⟩ := decoder
  rw [none] at covers
  generalize blankTimes : ([] : List Datetime) = noTimes at covers
  cases covers with
  | nil => rw [show buffer = [] from blank]
  | cons width timestamp wide _ =>
      have positive := congrArg List.length blankTimes
      rw [List.length_append, List.length_replicate, List.length_nil] at positive
      omega

theorem Marked.flush {decoder : MessageDecoder} {times : List Datetime}
    (marked : Marked decoder times) :
    ∃ remainder, decoder.flush = .ok (remainder, {}) ∧
      remainder.toList.flatMap TimestampedMessage.data = decoder.buffer ∧
      Stamped times 0 remainder.toList := by
  unfold MessageDecoder.flush
  split
  · rename_i blank
    refine ⟨none, by rw [← marked.eq_fresh blank], ?_, trivial⟩
    rw [blank]
    rfl
  · rename_i pending
    obtain ⟨timestamp, reads, first⟩ := marked.firstByteTimestamp pending
    refine ⟨some ⟨timestamp, decoder.buffer⟩, by rw [reads], ?_, first, trivial⟩
    exact List.flatMap_singleton _ _

/-- Observation time of the chunk that contains a byte of the stream. -/
def observedAt : List TimestampedChunk → Nat → Option Datetime
  | [], _ => none
  | chunk :: rest, offset =>
      if offset < chunk.data.length then some chunk.timestamp
      else observedAt rest (offset - chunk.data.length)

theorem getElem?_byteTimes (chunks : List TimestampedChunk) (offset : Nat) :
    (byteTimes chunks)[offset]? = observedAt chunks offset := by
  induction chunks generalizing offset with
  | nil => rfl
  | cons chunk rest ih =>
      rw [byteTimes, List.flatMap_cons, ← byteTimes, observedAt]
      split
      · rename_i inside
        rw [List.getElem?_append_left (by rw [List.length_replicate]; exact inside),
          List.getElem?_replicate_of_lt inside]
      · rename_i outside
        rw [List.getElem?_append_right (by rw [List.length_replicate]; omega),
          List.length_replicate, ih]

theorem Stamped.observedAt {chunks : List TimestampedChunk} {messages before after :
    List TimestampedMessage} {message : TimestampedMessage}
    (stamped : Stamped (byteTimes chunks) 0 messages)
    (located : messages = before ++ message :: after) :
    observedAt chunks (before.flatMap TimestampedMessage.data).length =
      some message.timestamp := by
  rw [located, stamped_append, Nat.zero_add] at stamped
  rw [← getElem?_byteTimes]
  exact stamped.2.1

/-- However the stream is cut into chunks, feeding them never raises and yields the stream
split after each successive header terminator, every part with the time of its first byte. -/
theorem feedAll_splits_stream (chunks : List TimestampedChunk) :
    ∃ messages decoder remainder,
      feedAll {} chunks = ⟨messages, .ok decoder⟩ ∧
      decoder.flush = .ok (remainder, {}) ∧
      SplitAfter headerTerminator (chunks.flatMap TimestampedChunk.data)
        (messages.map TimestampedMessage.data)
        (remainder.toList.flatMap TimestampedMessage.data) ∧
      (messages ++ remainder.toList).flatMap TimestampedMessage.data =
        chunks.flatMap TimestampedChunk.data ∧
      (∀ before message after, messages ++ remainder.toList = before ++ message :: after →
        observedAt chunks (before.flatMap TimestampedMessage.data).length =
          some message.timestamp) ∧
      (∀ others : List TimestampedChunk,
        others.flatMap TimestampedChunk.data = chunks.flatMap TimestampedChunk.data →
        (feedAll {} others).yielded.map TimestampedMessage.data =
          messages.map TimestampedMessage.data) := by
  obtain ⟨messages, decoder, fed, framed⟩ := feedAll_framed chunks [] [] {} framed_nil
  rw [List.nil_append, List.nil_append] at framed
  obtain ⟨remainder, flushed, bytes, last⟩ := framed.marked.flush
  refine ⟨messages, decoder, remainder, fed, flushed, ?_, ?_, ?_, ?_⟩
  · rw [bytes]
    exact framed.split
  · rw [List.flatMap_append, bytes, List.flatMap_def]
    exact framed.split.flatten_append
  · intro before message after located
    rw [stamped_drop, Nat.add_zero] at last
    have stamped : Stamped (byteTimes chunks) 0 (messages ++ remainder.toList) := by
      rw [stamped_append, Nat.zero_add]
      exact ⟨framed.stamped, last⟩
    exact stamped.observedAt located
  · intro others sameBytes
    obtain ⟨otherMessages, _, otherFed, otherFramed⟩ := feedAll_framed others [] [] {} framed_nil
    have split := otherFramed.split
    rw [List.nil_append, List.nil_append, sameBytes] at split
    rw [otherFed]
    exact (split.unique framed.split).1

/-- A terminator that straddles chunks, two messages in one chunk, and a remainder. -/
example : ((feedAll {} [⟨.utc .epoch, [1, 13, 10]⟩, ⟨.utc .baseline, []⟩,
    ⟨.utc .baseline, [13, 10, 13, 10, 13, 10, 2]⟩]).yielded =
    [⟨.utc .epoch, [1, 13, 10, 13, 10]⟩, ⟨.utc .baseline, [13, 10, 13, 10]⟩]) := by
  decide

end SignalForge.MessageDecoder
