import SignalForge.Framing
import SignalForge.Generator
import SignalForge.TcpReassembler

/-! Incremental detection of SIP header boundaries in reassembled chunks. -/

set_option autoImplicit false

namespace SignalForge

/-- The bytes of one SIP message with the observation time of its first byte. -/
structure TimestampedMessage where
  timestamp : Datetime
  data : Bytes
  deriving DecidableEq

structure MessageDecoder where
  buffer : Bytes := []
  /-- Buffer offset at which each chunk's bytes begin, with the chunk's observation time. -/
  marks : List (Nat × Datetime) := []
  deriving DecidableEq

namespace MessageDecoder

/-- `b"\r\n\r\n"`. -/
def headerTerminator : Bytes := [13, 10, 13, 10]

def firstByteTimestamp (decoder : MessageDecoder) : Except Raised Datetime :=
  match decoder.marks with
  | [] => .error (.valueError
      ("no observation timestamp for buffered data; " ++
        "feed() must supply a TimestampedChunk before framing"))
  | (_, timestamp) :: _ => .ok timestamp

/-- Marks at or below the consumed bytes collapse into the last of them, at zero. -/
def rebase (consumed : Nat) (rebased : List (Nat × Datetime)) (mark : Nat × Datetime) :
    List (Nat × Datetime) :=
  if mark.1 ≤ consumed then [(0, mark.2)] else rebased ++ [(mark.1 - consumed, mark.2)]

def advanceMarks (decoder : MessageDecoder) (consumed : Nat) : MessageDecoder :=
  if decoder.buffer = [] then { decoder with marks := [] }
  else { decoder with marks := decoder.marks.foldl (rebase consumed) [] }

/-- At most `turns` turns of the loop that takes messages off the front of the buffer. -/
def feedLoop : Nat → MessageDecoder → Generated Raised TimestampedMessage MessageDecoder
  | 0, decoder => .done decoder
  | turns + 1, decoder =>
      match Framing.find? headerTerminator decoder.buffer with
      | none => .done decoder
      | some boundary =>
          let messageEnd := boundary + headerTerminator.length
          match decoder.firstByteTimestamp with
          | .error reason => .raise reason
          | .ok observedAt =>
              let kept := { decoder with buffer := decoder.buffer.drop messageEnd }
              .yield ⟨observedAt, decoder.buffer.take messageEnd⟩
                (feedLoop turns (kept.advanceMarks messageEnd))

def accept (decoder : MessageDecoder) (chunk : TimestampedChunk) : MessageDecoder :=
  if chunk.data = [] then decoder
  else { buffer := decoder.buffer ++ chunk.data
         marks := decoder.marks ++ [(decoder.buffer.length, chunk.timestamp)] }

/-- Every message takes bytes off the buffer, so there are at most as many turns as bytes. -/
def feed (decoder : MessageDecoder) (chunk : TimestampedChunk) :
    Generated Raised TimestampedMessage MessageDecoder :=
  let accepted := decoder.accept chunk
  feedLoop accepted.buffer.length accepted

/-- The unterminated remainder, and the decoder emptied of it. -/
def flush (decoder : MessageDecoder) :
    Except Raised (Option TimestampedMessage × MessageDecoder) :=
  if decoder.buffer = [] then .ok (none, decoder)
  else match decoder.firstByteTimestamp with
    | .error reason => .error reason
    | .ok timestamp => .ok (some ⟨timestamp, decoder.buffer⟩, {})

/-- Chunks fed in order, each feed consumed to its end. -/
def feedAll (decoder : MessageDecoder) :
    List TimestampedChunk → Generated Raised TimestampedMessage MessageDecoder
  | [] => .done decoder
  | chunk :: rest => (decoder.feed chunk).bind fun fed => feedAll fed rest

end MessageDecoder

end SignalForge
