import Mathlib.Data.String.Basic
import SignalForge.Datetime
import SignalForge.OrderedDict

/-! Session tracking and incremental TCP stream reconstruction. Observer callbacks and the
session id text, which only observers read, are left out. -/

set_option autoImplicit false

namespace SignalForge

abbrev Bytes : Type := List UInt8

structure TCPPacket where
  srcIp : String
  dstIp : String
  srcPort : Nat
  dstPort : Nat
  sequenceNumber : Nat
  payload : Bytes
  timestamp : Datetime
  fin : Bool := false
  deriving DecidableEq

/-- Reassembled stream bytes with the observation time of their first byte. -/
structure TimestampedChunk where
  timestamp : Datetime
  data : Bytes
  deriving DecidableEq

/-- `(ip, port, ip, port)`, smaller endpoint first. -/
abbrev SessionKey : Type := String × Nat × String × Nat

/-- The part of a session that reassembly reads and writes. An expected sequence of zero
stands for no packet seen yet. -/
structure StreamState where
  expectedSequence : Nat := 0
  bufferedSegments : OrderedDict Nat TimestampedChunk := .empty

structure TCPSession extends StreamState where
  sourceIp : String
  destinationIp : String
  sourcePort : Nat
  destinationPort : Nat
  startTimestamp : Datetime
  lastActivityTimestamp : Datetime
  endTimestamp : Option Datetime := none

namespace SessionTracker

/-- Python's tuple order on endpoints. -/
def endpointLe (left right : String × Nat) : Bool :=
  decide (left.1 < right.1 ∨ left.1 = right.1 ∧ left.2 ≤ right.2)

/-- Both directions of a connection map to the same session. -/
def normaliseSessionKey (srcIp : String) (srcPort : Nat) (dstIp : String) (dstPort : Nat) :
    SessionKey :=
  if endpointLe (srcIp, srcPort) (dstIp, dstPort) then (srcIp, srcPort, dstIp, dstPort)
  else (dstIp, dstPort, srcIp, srcPort)

def newSession (key : SessionKey) (timestamp : Datetime) : TCPSession where
  sourceIp := key.1
  sourcePort := key.2.1
  destinationIp := key.2.2.1
  destinationPort := key.2.2.2
  startTimestamp := timestamp
  lastActivityTimestamp := timestamp

def getOrCreateSession (sessions : OrderedDict SessionKey TCPSession) (key : SessionKey)
    (timestamp : Datetime) : TCPSession :=
  match sessions.get? key with
  | none => newSession key timestamp
  | some session => { session with lastActivityTimestamp := timestamp }

def closeSession (sessions : OrderedDict SessionKey TCPSession) (key : SessionKey)
    (timestamp : Datetime) : OrderedDict SessionKey TCPSession :=
  match sessions.get? key with
  | none => sessions
  | some session => sessions.set key { session with endTimestamp := some timestamp }

end SessionTracker

namespace TcpReassembler

/-- The reassembler's state is its session tracker's table. -/
abbrev State : Type := OrderedDict SessionKey TCPSession

def fresh : State := .empty

def packetKey (packet : TCPPacket) : SessionKey :=
  SessionTracker.normaliseSessionKey packet.srcIp packet.srcPort packet.dstIp packet.dstPort

/-- One turn of the flush loop, or `none` where its guard is false. -/
def flushStep (session : StreamState) : Option (TimestampedChunk × StreamState) :=
  (session.bufferedSegments.get? session.expectedSequence).map fun chunk => (chunk,
    { bufferedSegments := session.bufferedSegments.erase session.expectedSequence
      expectedSequence := session.expectedSequence + chunk.data.length })

/-- At most `turns` turns of the loop. -/
def flushLoop : Nat → StreamState → StreamState × List TimestampedChunk
  | 0, session => (session, [])
  | turns + 1, session =>
      match flushStep session with
      | none => (session, [])
      | some (chunk, next) =>
          let rest := flushLoop turns next
          (rest.1, chunk :: rest.2)

/-- Every turn pops a buffered segment, so there are at most as many turns as segments. -/
def flushBuffer (session : StreamState) : StreamState × List TimestampedChunk :=
  flushLoop session.bufferedSegments.length session

def handlePacket (session : StreamState) (packet : TCPPacket) :
    StreamState × List TimestampedChunk :=
  let seq := packet.sequenceNumber
  let session :=
    if session.expectedSequence = 0 then { session with expectedSequence := seq } else session
  if seq < session.expectedSequence then
    -- duplicate / retransmitted segment ignored
    (session, [])
  else if session.expectedSequence < seq then
    ({ session with
        bufferedSegments := session.bufferedSegments.set seq ⟨packet.timestamp, packet.payload⟩ },
      [])
  else if packet.payload = [] then
    (session, [])
  else
    let flushed := flushBuffer
      { session with expectedSequence := session.expectedSequence + packet.payload.length }
    (flushed.1, ⟨packet.timestamp, packet.payload⟩ :: flushed.2)

/-- All chunks one packet yields, the generator consumed to its end. -/
def processPacket (state : State) (packet : TCPPacket) : State × List TimestampedChunk :=
  let key := packetKey packet
  let session := SessionTracker.getOrCreateSession state key packet.timestamp
  let handled := handlePacket session.toStreamState packet
  let state := state.set key { session with toStreamState := handled.1 }
  (if packet.fin then SessionTracker.closeSession state key packet.timestamp else state,
    handled.2)

/-- The table with every buffer cleared, and the segments and bytes dropped. -/
def discardIncomplete (state : State) : State × Nat × Nat :=
  (state.mapValues fun session => { session with bufferedSegments := .empty },
    state.values.foldl (fun counts session =>
      session.bufferedSegments.values.foldl
        (fun counts chunk => (counts.1 + 1, counts.2 + chunk.data.length)) counts) (0, 0))

/-- Packets in arrival order, with the chunks of each. -/
def processPackets (state : State) : List TCPPacket → State × List (List TimestampedChunk)
  | [] => (state, [])
  | packet :: rest =>
      let first := processPacket state packet
      let later := processPackets first.1 rest
      (later.1, first.2 :: later.2)

/-- The bytes of all chunks yielded, in order. -/
def yielded (chunks : List TimestampedChunk) : Bytes := chunks.flatMap TimestampedChunk.data

/-- A packet between two fixed endpoints, for runs on concrete packets. -/
def samplePacket (sequenceNumber : Nat) (payload : Bytes) : TCPPacket where
  srcIp := "10.0.0.1"
  dstIp := "10.0.0.2"
  srcPort := 1234
  dstPort := 80
  sequenceNumber := sequenceNumber
  payload := payload
  timestamp := .utc .epoch

end TcpReassembler

end SignalForge
