import SignalForge.ParserReports

/-! The session table after a run: a session lasts from its connection's first packet to the last
fin, and the observer is told of each session's start once and of every fin. -/

set_option autoImplicit false

namespace OrderedDict

variable {κ ν γ : Type} [DecidableEq κ]

theorem entries_set_of_fresh (d : OrderedDict κ ν) {key : κ} (fresh : d.get? key = none)
    (value : ν) : (d.set key value).entries = d.entries ++ [(key, value)] := by
  have absent : key ∉ d.entries.map Prod.fst := (get?_eq_none_iff d key).mp fresh
  rw [set, dif_pos absent]

/-- A reading that a write does not change. -/
theorem map_entries_set (d : OrderedDict κ ν) {key : κ} {old value : ν}
    (found : d.get? key = some old) {read : κ × ν → γ} (same : read (key, value) = read (key, old)) :
    (d.set key value).entries.map read = d.entries.map read := by
  have known : ¬ key ∉ d.entries.map Prod.fst :=
    not_not.mpr (List.mem_map_of_mem (mem_of_get? found))
  rw [set, dif_neg known]
  show (overwrite d.entries key value).map read = _
  rw [overwrite, List.map_map]
  refine List.map_congr_left fun entry member => ?_
  rw [Function.comp_apply]
  split
  · rename_i here
    have there := lookup_of_mem d.nodup member
    rw [here] at there
    have held : old = entry.2 := Option.some.inj (found.symm.trans there)
    rw [same, held, ← here]
  · rfl

end OrderedDict

namespace SignalForge

def ParserReport.isStart : ParserReport → Bool
  | .sessionStart .. => true
  | _ => false

def ParserReport.isEnd : ParserReport → Bool
  | .sessionEnd .. => true
  | _ => false

/-- The times of a session. -/
structure Lifecycle where
  startTimestamp : Datetime
  lastActivityTimestamp : Datetime
  endTimestamp : Option Datetime
  deriving DecidableEq

def TCPSession.lifecycle (session : TCPSession) : Lifecycle where
  startTimestamp := session.startTimestamp
  lastActivityTimestamp := session.lastActivityTimestamp
  endTimestamp := session.endTimestamp

namespace Lifecycle

/-- What a packet makes of the times of its session. -/
def observe (seen : Option Lifecycle) (packet : TCPPacket) : Option Lifecycle :=
  some {
    startTimestamp := (seen.map startTimestamp).getD packet.timestamp
    lastActivityTimestamp := packet.timestamp
    endTimestamp := if packet.fin then some packet.timestamp else seen.bind endTimestamp }

/-- From the first packet to the last one and the last fin. -/
def ofPackets (packets : List TCPPacket) : Option Lifecycle :=
  packets.head?.map fun first => {
    startTimestamp := first.timestamp
    lastActivityTimestamp := (packets.getLast?.getD first).timestamp
    endTimestamp := (packets.filter TCPPacket.fin).getLast?.map TCPPacket.timestamp }

theorem ofPackets_append (packets : List TCPPacket) (packet : TCPPacket) :
    ofPackets (packets ++ [packet]) = observe (ofPackets packets) packet := by
  have last : ((packets ++ [packet]).filter TCPPacket.fin).getLast?.map TCPPacket.timestamp =
      if packet.fin then some packet.timestamp
      else (packets.filter TCPPacket.fin).getLast?.map TCPPacket.timestamp := by
    rw [List.filter_append]
    split
    · rename_i closing
      rw [List.filter_cons_of_pos closing, List.filter_nil, List.getLast?_concat]
      rfl
    · rename_i open'
      rw [List.filter_cons_of_neg open', List.filter_nil, List.append_nil]
  rw [ofPackets, last, List.getLast?_concat]
  cases packets with
  | nil => rfl
  | cons first rest => rfl

theorem foldl_observe (packets : List TCPPacket) :
    packets.foldl observe none = ofPackets packets := by
  induction packets using List.reverseRecOn with
  | nil => rfl
  | append_singleton packets packet ih =>
      rw [List.foldl_append, List.foldl_cons, List.foldl_nil, ih, ofPackets_append]

/-- A session is open where none of its packets is a fin. -/
theorem ofPackets_open {packets : List TCPPacket} {lifecycle : Lifecycle}
    (lasted : ofPackets packets = some lifecycle) :
    lifecycle.endTimestamp = none ↔ ∀ packet ∈ packets, packet.fin = false := by
  obtain ⟨first, _, rfl⟩ := Option.map_eq_some_iff.mp lasted
  show (packets.filter TCPPacket.fin).getLast?.map _ = none ↔ _
  rw [Option.map_eq_none_iff, List.getLast?_eq_none_iff, List.filter_eq_nil_iff]
  exact forall₂_congr fun packet _ => Iff.of_eq (Bool.not_eq_true _)

end Lifecycle

namespace TcpReassembler

open SessionTracker

section

variable (state : State) (packet : TCPPacket)

/-- The session of a packet once it is processed. -/
theorem processPacket_get? :
    ∃ session, (processPacket state packet).1.get? (packetKey packet) = some session ∧
      some session.lifecycle =
        Lifecycle.observe ((state.get? (packetKey packet)).map TCPSession.lifecycle) packet ∧
      ∀ key, key ≠ packetKey packet → (processPacket state packet).1.get? key = state.get? key := by
  have created : ∀ session, session = getOrCreateSession state (packetKey packet) packet.timestamp →
      session.startTimestamp = ((state.get? (packetKey packet)).map fun seen =>
          seen.startTimestamp).getD packet.timestamp ∧
        session.lastActivityTimestamp = packet.timestamp ∧
        session.endTimestamp = (state.get? (packetKey packet)).bind TCPSession.endTimestamp := by
    rintro session rfl
    rw [getOrCreateSession]
    cases state.get? (packetKey packet) <;> exact ⟨rfl, rfl, rfl⟩
  obtain ⟨begins, lasts, ends⟩ := created _ rfl
  rw [processPacket]
  split
  · rename_i closing
    rw [closeSession, OrderedDict.get?_set_self]
    refine ⟨_, OrderedDict.get?_set_self .., ?_, fun key apart => ?_⟩
    · simp only [TCPSession.lifecycle, Lifecycle.observe, closing, ↓reduceIte, Option.map_map]
      rw [begins, lasts]
      rfl
    · rw [OrderedDict.get?_set_of_ne _ _ apart, OrderedDict.get?_set_of_ne _ _ apart]
  · rename_i lasting
    refine ⟨_, OrderedDict.get?_set_self .., ?_, fun key apart =>
      OrderedDict.get?_set_of_ne _ _ apart⟩
    simp only [TCPSession.lifecycle, Lifecycle.observe, lasting, Bool.false_eq_true, ↓reduceIte,
      Option.map_map]
    rw [begins, lasts, ends, Option.bind_map]
    rfl

end

/-- A connection's times are what its own packets make of them. -/
theorem processPackets_lifecycle (state : State) (packets : List TCPPacket) (key : SessionKey) :
    ((processPackets state packets).1.get? key).map TCPSession.lifecycle =
      (packets.filter fun packet => packetKey packet = key).foldl Lifecycle.observe
        ((state.get? key).map TCPSession.lifecycle) := by
  induction packets generalizing state with
  | nil => rfl
  | cons packet rest ih =>
      obtain ⟨session, found, lives, others⟩ := processPacket_get? state packet
      rw [processPackets, ih]
      by_cases own : packetKey packet = key
      · subst own
        rw [List.filter_cons_of_pos (by simp), List.foldl_cons, found, Option.map_some, lives]
      · rw [List.filter_cons_of_neg (by simpa using own), others key (Ne.symm own)]

/-- A session keeps the time it started. -/
theorem processPackets_start {state : State} {key : SessionKey} {session : TCPSession}
    (found : state.get? key = some session) (packets : List TCPPacket) :
    ∃ later, (processPackets state packets).1.get? key = some later ∧
      later.startTimestamp = session.startTimestamp := by
  induction packets generalizing state session with
  | nil => exact ⟨session, found, rfl⟩
  | cons packet rest ih =>
      obtain ⟨touched, stored, lives, others⟩ := processPacket_get? state packet
      by_cases own : key = packetKey packet
      · subst own
        rw [found, Option.map_some, Lifecycle.observe, Option.some.injEq] at lives
        obtain ⟨later, kept, same⟩ := ih stored
        exact ⟨later, kept, same.trans (congrArg Lifecycle.startTimestamp lives)⟩
      · exact ih ((others key own).trans found)

section

variable (sessionId : SessionKey → Datetime → String)

/-- The reports that the sessions of a table started, in the order of the table. -/
def startedIn (state : State) : List ParserReport :=
  state.entries.map fun entry => started sessionId entry.1 entry.2

/-- The report that a session of a table ended. -/
def endedBy (state : State) (packet : TCPPacket) : Option ParserReport :=
  (state.get? (packetKey packet)).map fun session =>
    ended sessionId (packetKey packet) session packet.timestamp

theorem startedIn_set_of_fresh {state : State} {key : SessionKey} (fresh : state.get? key = none)
    (session : TCPSession) :
    startedIn sessionId (state.set key session) =
      startedIn sessionId state ++ [started sessionId key session] := by
  rw [startedIn, state.entries_set_of_fresh fresh, List.map_append]
  rfl

/-- A packet adds the report of its session where it is the first of it. -/
theorem processPacket_startedIn (state : State) (packet : TCPPacket) :
    startedIn sessionId (processPacket state packet).1 = startedIn sessionId state ++
      startReports sessionId state (packetKey packet) packet.timestamp := by
  have closes : ∀ (state : State) timestamp,
      startedIn sessionId (closeSession state (packetKey packet) timestamp) =
        startedIn sessionId state := by
    intro state timestamp
    rw [closeSession]
    split
    · rfl
    · rename_i session found
      exact state.map_entries_set found rfl
  have written : ∀ handled : StreamState,
      startedIn sessionId (state.set (packetKey packet)
          { getOrCreateSession state (packetKey packet) packet.timestamp with
            toStreamState := handled }) =
        startedIn sessionId state ++
          startReports sessionId state (packetKey packet) packet.timestamp := by
    intro handled
    rw [startReports, getOrCreateSession]
    cases found : state.get? (packetKey packet) with
    | none => exact startedIn_set_of_fresh sessionId found _
    | some session =>
        show startedIn sessionId (state.set _ _) = startedIn sessionId state ++ []
        rw [List.append_nil, startedIn, startedIn]
        exact state.map_entries_set found rfl
  rw [processPacket]
  split
  · rw [closes]
    exact written _
  · exact written _

theorem startedIn_discardIncomplete (state : State) :
    startedIn sessionId (discardIncomplete state).1 = startedIn sessionId state :=
  List.map_map

theorem endedBy_discardIncomplete (state : State) :
    endedBy sessionId (discardIncomplete state).1 = endedBy sessionId state := by
  funext packet
  rw [endedBy, endedBy, discardIncomplete, OrderedDict.get?_mapValues, Option.map_map]
  rfl

variable {sessionId}

theorem starts_reportsBefore (state : State) (packet : TCPPacket) :
    (reportsBefore sessionId state packet).filter ParserReport.isStart =
      startReports sessionId state (packetKey packet) packet.timestamp := by
  have begun : (startReports sessionId state (packetKey packet) packet.timestamp).filter
      ParserReport.isStart = startReports sessionId state (packetKey packet) packet.timestamp := by
    rw [startReports]
    split <;> rfl
  rw [reportsBefore, List.filter_append, begun]
  split <;> exact List.append_nil _

theorem starts_reportsAfter (state : State) (packet : TCPPacket) :
    (reportsAfter sessionId state packet).filter ParserReport.isStart = [] := by
  rw [reportsAfter]
  split
  · rw [endReports]
    split <;> rfl
  · rfl

/-- The sessions reported started are those of the table, each once. -/
theorem starts_reportsIn (state : State) (packets : List TCPPacket) :
    startedIn sessionId (processPackets state packets).1 = startedIn sessionId state ++
      (reportsIn sessionId state packets).filter ParserReport.isStart := by
  induction packets generalizing state with
  | nil => exact (List.append_nil _).symm
  | cons packet rest ih =>
      rw [processPackets, ih, processPacket_startedIn, reportsIn, List.filter_append,
        List.filter_append, starts_reportsBefore, starts_reportsAfter, List.nil_append,
        List.append_assoc]

theorem ends_reportsBefore (state : State) (packet : TCPPacket) :
    (reportsBefore sessionId state packet).filter ParserReport.isEnd = [] := by
  have none : (startReports sessionId state (packetKey packet) packet.timestamp).filter
      ParserReport.isEnd = [] := by
    rw [startReports]
    split <;> rfl
  rw [reportsBefore, List.filter_append, none]
  split <;> rfl

/-- Every fin is reported, with how long its session had lasted. -/
theorem ends_reportsIn (state : State) (packets : List TCPPacket) :
    (reportsIn sessionId state packets).filter ParserReport.isEnd =
      (packets.filter TCPPacket.fin).filterMap
        (endedBy sessionId (processPackets state packets).1) := by
  induction packets generalizing state with
  | nil => rfl
  | cons packet rest ih =>
      have last : (reportsAfter sessionId (processPacket state packet).1 packet).filter
          ParserReport.isEnd = if packet.fin then
            (endedBy sessionId (processPackets (processPacket state packet).1 rest).1
              packet).toList else [] := by
        obtain ⟨session, found, _, _⟩ := processPacket_get? state packet
        obtain ⟨later, kept, same⟩ := processPackets_start found rest
        have reported : endReports sessionId (processPacket state packet).1 (packetKey packet)
            packet.timestamp = [ended sessionId (packetKey packet) session packet.timestamp] := by
          rw [endReports, found]
        have sameEnd : ended sessionId (packetKey packet) later packet.timestamp =
            ended sessionId (packetKey packet) session packet.timestamp := by
          rw [ended, ended, durationSeconds, durationSeconds, same]
        rw [reportsAfter]
        split
        · rw [reported, endedBy, kept, Option.map_some, sameEnd]
          rfl
        · rfl
      rw [reportsIn, List.filter_append, List.filter_append, ends_reportsBefore, List.nil_append,
        last, ih, processPackets]
      split
      · rename_i closing
        rw [List.filter_cons_of_pos closing]
        cases here : endedBy sessionId (processPackets (processPacket state packet).1 rest).1
            packet with
        | none => rw [List.filterMap_cons_none here]; rfl
        | some made => rw [List.filterMap_cons_some here]; rfl
      · rename_i lasting
        rw [List.filter_cons_of_neg lasting]
        rfl

end

end TcpReassembler

namespace ParserPipeline.Observed

open TcpReassembler (fresh packetKey processPackets startedIn endedBy)

/-- Reports that are only made of packets, kept of a run, are those of its packets. -/
theorem StreamItems.filter {sessionId : SessionKey → Datetime → String} {final : ParserPipeline}
    {packets : List TCPPacket} {items : List ParserItem}
    (stream : StreamItems sessionId final packets items) {keep : ParserReport → Bool}
    (only : ∀ made, ParserItem.packetReport? (.report made) = none → keep made = false) :
    (items.filterMap ParserItem.report?).filter keep =
      (TcpReassembler.reportsIn sessionId fresh packets).filter keep := by
  rw [← List.filterMap_eq_filter]
  exact stream.read fun made other => Option.guard_eq_none_iff.mpr (only made other)

theorem isStart_packetReport (made : ParserReport)
    (other : ParserItem.packetReport? (.report made) = none) : made.isStart = false := by
  cases made with
  | sessionStart => cases other
  | _ => rfl

theorem isEnd_packetReport (made : ParserReport)
    (other : ParserItem.packetReport? (.report made) = none) : made.isEnd = false := by
  cases made with
  | sessionEnd => cases other
  | _ => rfl

variable {ω : Type} {rules : ParserRules ω} {traceId : Option Uuid}

/-- The sessions of a run: each lasts from the first packet between its endpoints to the last one
and the last fin, is active exactly where there was no fin, is reported started once, and is
reported ended at every fin with the time since that first packet. -/
structure SessionsReported (sessionId : SessionKey → Datetime → String) (packets : List TCPPacket)
    (table : TcpReassembler.State) (items : List ParserItem) : Prop where
  lifecycles : ∀ key, (table.get? key).map TCPSession.lifecycle =
    Lifecycle.ofPackets (packets.filter fun packet => packetKey packet = key)
  active : ∀ key session, table.get? key = some session →
    (session ∈ SessionTracker.activeSessions table ↔
      ∀ packet ∈ packets, packetKey packet = key → packet.fin = false)
  starts : (items.filterMap ParserItem.report?).filter ParserReport.isStart =
    startedIn sessionId table
  ends : (items.filterMap ParserItem.report?).filter ParserReport.isEnd =
    (packets.filter TCPPacket.fin).filterMap (endedBy sessionId table)

theorem sessions_reported {sessionId : SessionKey → Datetime → String} {storeId : Str}
    {packets : List TCPPacket} {pipeline final : ParserPipeline} {world after : ω}
    (created : create storeId = .ok pipeline)
    (returned : (parseStream sessionId rules traceId packets pipeline world).ended =
      .ok (final, after)) :
    SessionsReported sessionId packets final.reassembler
      (parseStream sessionId rules traceId packets pipeline world).yielded := by
  have stream := parseStream_items created returned
  have lifecycles : ∀ key, (final.reassembler.get? key).map TCPSession.lifecycle =
      Lifecycle.ofPackets (packets.filter fun packet => packetKey packet = key) := by
    intro key
    have lives := TcpReassembler.processPackets_lifecycle fresh packets key
    rw [TcpReassembler.fresh, OrderedDict.get?_empty, Option.map_none,
      Lifecycle.foldl_observe] at lives
    rw [stream.reassembler, ← lives, TcpReassembler.discardIncomplete, OrderedDict.get?_mapValues,
      Option.map_map]
    rfl
  refine ⟨lifecycles, ?_, ?_, ?_⟩
  · intro key session found
    have lasted := lifecycles key
    rw [found, Option.map_some] at lasted
    have member : session ∈ final.reassembler.values :=
      (OrderedDict.mem_values_iff _ _).mpr ⟨key, found⟩
    rw [SessionTracker.activeSessions, List.mem_filter, and_iff_right member, decide_eq_true_iff]
    refine (Lifecycle.ofPackets_open lasted.symm).trans ⟨fun none packet here own => ?_,
      fun none packet here => ?_⟩
    · exact none packet (List.mem_filter.mpr ⟨here, decide_eq_true own⟩)
    · obtain ⟨here, own⟩ := List.mem_filter.mp here
      exact none packet here (of_decide_eq_true own)
  · have starts : startedIn sessionId (processPackets fresh packets).1 =
        startedIn sessionId fresh ++ (TcpReassembler.reportsIn sessionId fresh packets).filter
          ParserReport.isStart := TcpReassembler.starts_reportsIn fresh packets
    rw [stream.filter isStart_packetReport, stream.reassembler,
      TcpReassembler.startedIn_discardIncomplete, starts]
    rfl
  · rw [stream.filter isEnd_packetReport, TcpReassembler.ends_reportsIn, stream.reassembler,
      TcpReassembler.endedBy_discardIncomplete]

theorem sessions_reported_sample :
    ∃ final after, (sampleRun samplePipeline).ended = .ok (final, after) ∧
      SessionsReported (fun _ _ => "session") samplePackets final.reassembler
        (sampleRun samplePipeline).yielded := by
  rcases returned : (sampleRun samplePipeline).ended with reason | ⟨final, after⟩
  · have returns := sampleRun_returns
    rw [returned] at returns
    cases returns
  · exact ⟨final, after, rfl, sessions_reported create_sample returned⟩

end ParserPipeline.Observed

end SignalForge
