import EyesFree.Capture.Event
import EyesFree.Capture.Synthesis

namespace EyesFree

/-! How the reports about one request become events of its sequence. -/

/-- What a submitted request belongs to: the sequence, the kind of the request, and the client's
callback. -/
structure Subscription where
  sequence : SequenceId
  kind : RequestKind
  receiver : Receiver
deriving DecidableEq, Repr

namespace Subscription

/-- The events for the result of a frame. A result without a timestamp is not delivered; after
each frame of a repeating request the next one starts. -/
def completed (subscription : Subscription) (capabilities : Capabilities) (request : Request)
    (result : CaptureResult) : Except Fault (List CaptureEvent) := do
  let delivered ← match result.sensorTimestamp with
    | none => pure []
    | some timestamp =>
        let bundle ← capabilities.synthesize request.parameters result
        pure [.completed subscription.sequence timestamp bundle]
  return delivered ++
    if subscription.kind = .repeating then [.processStarted subscription.sequence] else []

def events (subscription : Subscription) (capabilities : Capabilities) (request : Request) :
    Report → Except Fault (List CaptureEvent)
  | .started _ timestamp => .ok [.started subscription.sequence timestamp]
  | .progressed _ => .ok []
  | .completed result => subscription.completed capabilities request result
  | .failed _ reason => .ok [.failed subscription.sequence reason]
  | .bufferLost _ _ => .ok [.failed subscription.sequence .error]
  | .sequenceCompleted _ _ => .ok [.sequenceCompleted subscription.sequence]
  | .sequenceAborted _ => .ok [.sequenceAborted subscription.sequence]

/-- The deliveries for a report. Nothing about a repeating request reaches the client any more
once the end of the session was signaled. -/
def deliveries (capabilities : Capabilities) (ended : Bool) (subscription : Subscription)
    (request : Request) (report : Report) : Except Fault (List Delivery) :=
  if subscription.kind = .repeating ∧ ended then .ok []
  else do
    let events ← subscription.events capabilities request report
    return events.map fun event => ⟨subscription.receiver, event⟩

end Subscription

end EyesFree
