import SignalForge.Call
import SignalForge.StreamRecords

/-! Alerts published to an EventBridge bus, in calls of at most ten entries. -/

set_option autoImplicit false

namespace SignalForge

/-- An entry of a call of the client's `put_events`. -/
structure PutEventsEntry where
  source : String
  detailType : String
  detail : String
  eventBusName : String
  deriving DecidableEq

/-- The sink, with the JSON text of an alert and what each call of its client's `put_events` raises,
by the number of calls before; `none` where the call returns. -/
structure EventBridgeAlertSink where
  bus : Option String
  dumpJson : AlertEvent → String
  raises : Nat → Option Raised

namespace EventBridgeAlertSink

/-- The entries of each `put_events` called so far. -/
abbrev Calls : Type := List (List PutEventsEntry)

def putEventsMaxBatch : Nat := 10

def alertEventSource : String := "signalforge.alerts"

/-- `severity.value`. -/
def severityValue : DetectionSeverity → String
  | .info => "INFO"
  | .warning => "WARNING"
  | .critical => "CRITICAL"

/-- `_chunk(items, size)`: the slices from every multiple of the size. -/
def chunk {α : Type} (items : List α) (size : Nat) : List (List α) :=
  (List.range ((items.length + size - 1) / size)).map fun i => (items.drop (i * size)).take size

/-- `_entry`. -/
def entry (sink : EventBridgeAlertSink) (bus : String) (alert : AlertEvent) : PutEventsEntry where
  source := alertEventSource
  detailType := severityValue alert.severity ++ ":" ++ alert.detectionType
  detail := sink.dumpJson alert
  eventBusName := bus

/-- `client.put_events`. What it answers is not looked at. -/
def putEvents (sink : EventBridgeAlertSink) (entries : List PutEventsEntry) :
    Call Raised Calls Unit := do
  let outcome ← Call.read fun calls => sink.raises calls.length
  Call.write (· ++ [entries])
  match outcome with
  | some reason => Call.raise reason
  | none => pure ()

def putBatches (sink : EventBridgeAlertSink) (bus : String) :
    List (List AlertEvent) → Call Raised Calls Unit
  | [] => pure ()
  | batch :: rest => do
      putEvents sink (batch.map (entry sink bus))
      putBatches sink bus rest

/-- Without a bus, or without alerts, nothing is published. -/
def publish (sink : EventBridgeAlertSink) (alerts : List AlertEvent) : Call Raised Calls Unit :=
  match sink.bus with
  | none => pure ()
  | some bus => if alerts.isEmpty then pure () else putBatches sink bus (chunk alerts putEventsMaxBatch)

/-- Lists of alerts published in turn; where a publication raises, the next one follows. -/
def publishAll (sink : EventBridgeAlertSink) (published : List (List AlertEvent)) (calls : Calls) :
    Calls :=
  published.foldl (fun calls alerts => (publish sink alerts calls).2) calls

/-- Every entry goes to the sink's bus; there is none where the sink has no bus. -/
def Confined (sink : EventBridgeAlertSink) (calls : Calls) : Prop :=
  ∀ entries ∈ calls, ∀ entry ∈ entries, sink.bus = some entry.eventBusName

variable {sink : EventBridgeAlertSink} {bus : String}

theorem putEvents_confined (configured : sink.bus = some bus) (batch : List AlertEvent) :
    Call.Keeps (Confined sink) (putEvents sink (batch.map (entry sink bus))) := by
  refine Call.Keeps.bind (Call.keeps_read _) fun outcome => ?_
  refine Call.Keeps.bind ?_ fun _ => ?_
  · apply Call.keeps_write
    intro calls confined entries member
    rcases List.mem_append.mp member with before | here
    · exact confined entries before
    · rw [List.mem_singleton.mp here]
      intro entry made
      obtain ⟨alert, _, rfl⟩ := List.mem_map.mp made
      exact configured
  · cases outcome with
    | none => exact Call.keeps_pure ()
    | some reason => exact Call.keeps_raise reason

theorem putBatches_confined (configured : sink.bus = some bus) (batches : List (List AlertEvent)) :
    Call.Keeps (Confined sink) (putBatches sink bus batches) := by
  induction batches with
  | nil => exact Call.keeps_pure ()
  | cons batch rest ih => exact (putEvents_confined configured batch).bind fun _ => ih

theorem publish_confined (sink : EventBridgeAlertSink) (alerts : List AlertEvent) :
    Call.Keeps (Confined sink) (publish sink alerts) := by
  unfold publish
  split
  · exact Call.keeps_pure ()
  · rename_i bus configured
    split
    · exact Call.keeps_pure ()
    · exact putBatches_confined configured _

/-- Whatever is published and whichever calls raise, the entries go to the sink's bus. -/
theorem publishAll_confined (sink : EventBridgeAlertSink) (published : List (List AlertEvent)) :
    Confined sink (publishAll sink published []) := by
  induction published using List.reverseRecOn with
  | nil => exact List.forall_mem_nil _
  | append_singleton published alerts ih =>
      rw [publishAll, List.foldl_concat]
      exact publish_confined sink alerts _ ih

end EventBridgeAlertSink

end SignalForge
