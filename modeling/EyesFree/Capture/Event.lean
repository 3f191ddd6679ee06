import EyesFree.Capture.Request
import EyesFree.Error

namespace EyesFree

/-! What a client hears about its captures. Every event carries the id of the sequence that the
client was given when it started the capture. -/

structure SequenceId where
  number : UInt32
deriving DecidableEq, Repr

namespace SequenceId

def first : SequenceId := ⟨1⟩

/-- The greatest id that is given out: it has to fit a signed integer of 32 bits. -/
def limit : Nat := 0x7FFFFFFF

def describe (id : SequenceId) : String := toString id.number.toNat

/-- What a submission returns across the platform boundary: the id, or minus one when the request
was refused. -/
def raw : Except Error SequenceId → Int
  | .ok id => min id.number.toNat limit
  | .error _ => -1

end SequenceId

instance : Encode SequenceId := ⟨fun id => encode id.number⟩

instance : Decode SequenceId where
  decode position json := (Decode.decode position json).map SequenceId.mk

inductive CaptureEvent
  | started (sequence : SequenceId) (timestamp : Timestamp)
  | processStarted (sequence : SequenceId)
  | completed (sequence : SequenceId) (timestamp : Timestamp) (result : CaptureResult)
  | failed (sequence : SequenceId) (reason : FailureReason)
  | sequenceCompleted (sequence : SequenceId)
  | sequenceAborted (sequence : SequenceId)
deriving DecidableEq

namespace CaptureEvent

def sequence : CaptureEvent → SequenceId
  | .started sequence _ => sequence
  | .processStarted sequence => sequence
  | .completed sequence _ _ => sequence
  | .failed sequence _ => sequence
  | .sequenceCompleted sequence => sequence
  | .sequenceAborted sequence => sequence

/-- The last event of a sequence. -/
def isTerminal : CaptureEvent → Bool
  | .sequenceCompleted _ => true
  | .sequenceAborted _ => true
  | _ => false

/-! ## JSON form

An event is an object of its kind and its fields, or an array of them in order. A reader sets the
whole event aside before it looks at the kind. -/

def fields : CaptureEvent → List (String × Json)
  | .started sequence timestamp =>
      [("event", Json.ofString "started"), ("sequence_id", encode sequence),
        ("timestamp_ns", encode timestamp)]
  | .processStarted sequence =>
      [("event", Json.ofString "process_started"), ("sequence_id", encode sequence)]
  | .completed sequence timestamp result =>
      [("event", Json.ofString "completed"), ("sequence_id", encode sequence),
        ("timestamp_ns", encode timestamp), ("result", encode result)]
  | .failed sequence reason =>
      [("event", Json.ofString "failed"), ("sequence_id", encode sequence),
        ("reason", encode reason)]
  | .sequenceCompleted sequence =>
      [("event", Json.ofString "sequence_completed"), ("sequence_id", encode sequence)]
  | .sequenceAborted sequence =>
      [("event", Json.ofString "sequence_aborted"), ("sequence_id", encode sequence)]

/-- An event of a named kind from the record of its fields. -/
def ofFields? (position : Position) (kind : String) (record : Json) : Option CaptureEvent :=
  match kind with
  | "started" => do
      let [sequence, timestamp] ← record.fields? ["sequence_id", "timestamp_ns"] | none
      return .started (← Json.field? position sequence) (← Json.field? position timestamp)
  | "process_started" => do
      let [sequence] ← record.fields? ["sequence_id"] | none
      return .processStarted (← Json.field? position sequence)
  | "completed" => do
      let [sequence, timestamp, result] ←
        record.fields? ["sequence_id", "timestamp_ns", "result"] | none
      return .completed (← Json.field? position sequence) (← Json.field? position timestamp)
        (← Json.field? position result)
  | "failed" => do
      let [sequence, reason] ← record.fields? ["sequence_id", "reason"] | none
      return .failed (← Json.field? position sequence) (← Json.field? position reason)
  | "sequence_completed" => do
      let [sequence] ← record.fields? ["sequence_id"] | none
      return .sequenceCompleted (← Json.field? position sequence)
  | "sequence_aborted" => do
      let [sequence] ← record.fields? ["sequence_id"] | none
      return .sequenceAborted (← Json.field? position sequence)
  | _ => none

def decode (position : Position) (json : Json) : Option CaptureEvent := do
  if !position.canRetain json then none
  match json with
  | .object members =>
      let [some (.string kind)] ← Json.membersNamed? ["event"] members | none
      ofFields? .retained (← TextUnit.toString? kind) (.object members)
  | .array (.string kind :: rest) =>
      ofFields? .retained (← TextUnit.toString? kind) (.array rest)
  | _ => none

end CaptureEvent

instance : Encode CaptureEvent where
  encode event := .record event.fields

instance : Decode CaptureEvent where
  decode := CaptureEvent.decode

/-! ## Receivers -/

abbrev Receiver := String

structure Delivery where
  receiver : Receiver
  event : CaptureEvent
deriving DecidableEq

/-- The events that one receiver got, in order. -/
abbrev EventLog := List CaptureEvent

namespace EventLog

def ofDeliveries (receiver : Receiver) (deliveries : List Delivery) : EventLog :=
  (deliveries.filter (·.receiver = receiver)).map (·.event)

def forSequence (log : EventLog) (sequence : SequenceId) : List CaptureEvent :=
  log.filter (·.sequence = sequence)

/-- The results of the completed captures of a sequence. -/
def completedResults (log : EventLog) (sequence : SequenceId) : List CaptureResult :=
  (log.forSequence sequence).filterMap fun
    | .completed _ _ result => some result
    | _ => none

end EventLog

end EyesFree
