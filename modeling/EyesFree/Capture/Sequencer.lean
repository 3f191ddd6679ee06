import EyesFree.Capture.Channel
import EyesFree.Capture.Parameters

namespace EyesFree

/-! Numbering of captures. Every start of a capture takes an id from one counter, whether the
channel then takes the request or not, and the running repeating capture is remembered. -/

structure CaptureContext where
  capabilities : Capabilities
  parameters : Parameters := .empty
  /-- Whether the end of the session was signaled. -/
  ended : Bool := false

/-- How reports become events at the moment. -/
def CaptureContext.hear (context : CaptureContext) : Hearing Subscription Delivery :=
  Subscription.deliveries context.capabilities context.ended

structure Sequencer where
  next : Nat := 1
  repeating : Option SequenceId := none
deriving DecidableEq, Repr

namespace Sequencer

/-! ## Single steps -/

/-- Take the next id, as long as there are any. -/
def takeId (sequencer : Sequencer) : Except Error SequenceId × Sequencer :=
  if sequencer.next ≤ SequenceId.limit then
    (.ok ⟨UInt32.ofNat sequencer.next⟩, { sequencer with next := sequencer.next + 1 })
  else (.error (.submissionRejected "sequence ids exhausted"), sequencer)

def record (id : SequenceId) (sequencer : Sequencer) : Sequencer :=
  { sequencer with repeating := some id }

def takeRecorded (sequencer : Sequencer) : Option SequenceId × Sequencer :=
  (sequencer.repeating, { sequencer with repeating := none })

/-! ## Operations

They work on a sequencer together with the channel it submits to. -/

variable {σ : Type}

def onSequencer {α : Type} (change : Sequencer → α × Sequencer) :
    Activity (Sequencer × σ) Delivery α :=
  Activity.step fun (sequencer, channel) =>
    let (value, sequencer) := change sequencer
    (value, (sequencer, channel))

def onChannel {α : Type} (inner : Activity σ Delivery α) : Activity (Sequencer × σ) Delivery α :=
  inner.on (·.2) fun state channel => (state.1, channel)

variable [RequestChannel σ]

def startRepeating (context : CaptureContext) (receiver : Receiver) :
    Activity (Sequencer × σ) Delivery (Except Error SequenceId) := do
  let request := Request.of .repeating context.parameters.snapshot
  match ← onSequencer takeId with
  | .error error => return .error error
  | .ok id =>
      match ← onChannel
          (RequestChannel.setRepeating context.hear ⟨id, .repeating, receiver⟩ request) with
      | .error error => return .error error
      | .ok _ =>
          onSequencer fun sequencer => ((), sequencer.record id)
          return .ok id

/-- Submit a request for one capture. Its processing starts when the channel has taken it. -/
def submitOne (kind : RequestKind) (snapshot : Snapshot) (receiver : Receiver) :
    Activity (Sequencer × σ) Delivery (Except Error SequenceId) := do
  match ← onSequencer takeId with
  | .error error => return .error error
  | .ok id =>
      match ← onChannel
          (RequestChannel.submit ⟨id, kind, receiver⟩ (Request.of kind snapshot)) with
      | .error error => return .error error
      | .ok _ =>
          Activity.emit [⟨receiver, .processStarted id⟩]
          return .ok id

def startMultiFrame (context : CaptureContext) (receiver : Receiver) :
    Activity (Sequencer × σ) Delivery (Except Error SequenceId) :=
  submitOne .multiFrame context.parameters.snapshot receiver

/-- Submit a trigger, which is made of its own parameters only. -/
def startTrigger (context : CaptureContext) (request : CaptureRequest) (receiver : Receiver) :
    Activity (Sequencer × σ) Delivery (Except Error SequenceId) :=
  submitOne .trigger (request.supported context.capabilities) receiver

def stopRepeating (context : CaptureContext) : Activity (Sequencer × σ) Delivery Unit := do
  match ← onSequencer takeRecorded with
  | none => return ()
  | some _ => onChannel (RequestChannel.stopRepeating context.hear)

def abortAll (context : CaptureContext) : Activity (Sequencer × σ) Delivery Unit := do
  let _ ← onSequencer takeRecorded
  onChannel (RequestChannel.abortCaptures context.hear)

end Sequencer

end EyesFree
