import EyesFree.Capture.ReplayRun
import EyesFree.Session.Basic

namespace EyesFree

/-! Operations as data, and runs of them. A run is any sequence of operations of the client, steps
of the channel, and steps of the camera and the surfaces. -/

inductive Reply
  | done
  | stored (count : Nat)
  | entered (accepted : Bool)
  | started (id : SequenceId)
  | configured (configuration : StackConfiguration)
  | refused (error : Error)
  | channel (reply : ChannelReply)
deriving DecidableEq

namespace Reply

def ofOutcome {α : Type} (accepted : α → Reply) : Except Error α → Reply
  | .ok value => accepted value
  | .error error => .refused error

end Reply

/-! ## Operations of a session -/

inductive Operation
  | initSession (cameraId : String) (preview capture : OutputSurface)
  | startSession
  | setParameters (request : CaptureRequest)
  | startRepeating (receiver : Receiver)
  | startMultiFrame (receiver : Receiver)
  | startTrigger (request : CaptureRequest) (receiver : Receiver)
  | stopRepeating
  | endSession
  | deinitSession
deriving DecidableEq

namespace Operation

variable {σ : Type} [RequestChannel σ]

def perform : Operation → Activity (World σ) Delivery Reply
  | .initSession cameraId preview capture => do
      return .ofOutcome .configured
        (← Activity.step (World.initSession cameraId preview capture))
  | .startSession => return .ofOutcome (fun _ => .done) (← Activity.step World.startSession)
  | .setParameters request =>
      return .ofOutcome .stored (← Activity.step (World.setParameters request))
  | .startRepeating receiver => return .ofOutcome .started (← World.startRepeating receiver)
  | .startMultiFrame receiver => return .ofOutcome .started (← World.startMultiFrame receiver)
  | .startTrigger request receiver =>
      return .ofOutcome .started (← World.startTrigger request receiver)
  | .stopRepeating => return .ofOutcome (fun _ => .done) (← World.stopRepeating)
  | .endSession => return .ofOutcome (fun _ => .done) (← World.endSession)
  | .deinitSession => do
      World.deinitSession
      return .done

end Operation

/-! ## Steps of the surroundings -/

inductive SurroundingStep
  | allocate
  | failWriter (failing : Bool)
  | failSource (failure : Option Error)
  | produce (source : Nat) (timestamp : Timestamp)
  | abandon (output : Nat)
  | forward
deriving DecidableEq

namespace SurroundingStep

variable {σ : Type}

def onSurfaces (change : Surfaces → Surfaces) : Activity (World σ) Delivery Reply := do
  Activity.modify fun world => { world with surfaces := change world.surfaces }
  return .done

def perform : SurroundingStep → Activity (World σ) Delivery Reply
  | .allocate => onSurfaces fun surfaces => surfaces.allocate.2
  | .failWriter failing => onSurfaces fun surfaces => { surfaces with failWriter := failing }
  | .failSource failure => onSurfaces fun surfaces => { surfaces with failSource := failure }
  | .produce source timestamp =>
      return .entered (← Activity.step (World.produce source timestamp))
  | .abandon output => onSurfaces (Surfaces.abandon output)
  | .forward => do
      Activity.modify World.forwardFrame
      return .done

end SurroundingStep

/-! ## Runs of a session over the replaying channel -/

inductive SessionStep
  | operation (operation : Operation)
  | channel (step : ChannelStep)
  | surroundings (step : SurroundingStep)
deriving DecidableEq

abbrev ReplayWorld := World (ReplayChannel Subscription)

namespace SessionStep

def perform : SessionStep → Activity ReplayWorld Delivery Reply
  | .operation step => step.perform
  | .channel step => return .channel (← World.onChannel fun hear => step.perform hear)
  | .surroundings step => step.perform

end SessionStep

end EyesFree
