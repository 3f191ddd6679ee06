import EyesFree.Capture.ReplayRun
import EyesFree.Capture.Sequencer

namespace EyesFree

/-! Runs of a sequencer over the replaying channel, without a session around them. -/

inductive SequencerStep
  | startRepeating (receiver : Receiver)
  | startMultiFrame (receiver : Receiver)
  | startTrigger (request : CaptureRequest) (receiver : Receiver)
  | stopRepeating
  | abortAll
  | setParameters (request : CaptureRequest)
  | clearParameters
  /-- The end of the session is signaled, or no longer. -/
  | signalEnd (ended : Bool)
  | channel (step : ChannelStep)
deriving DecidableEq

inductive SequencerReply
  | done
  | started (id : SequenceId)
  | refused (error : Error)
  | stored (count : Nat)
  | channel (reply : ChannelReply)
deriving DecidableEq, Repr

structure SequencerStage where
  context : CaptureContext
  sequencer : Sequencer := {}
  channel : ReplayChannel Subscription := {}

namespace SequencerStage

def onSequencer {α : Type}
    (inner : CaptureContext →
      Activity (Sequencer × ReplayChannel Subscription) Delivery α) :
    Activity SequencerStage Delivery α := do
  (inner (← Activity.read).context).on (fun stage => (stage.sequencer, stage.channel))
    fun stage (sequencer, channel) => { stage with sequencer, channel }

def changeContext (change : CaptureContext → CaptureContext) :
    Activity SequencerStage Delivery Unit :=
  Activity.modify fun stage => { stage with context := change stage.context }

def startedOrRefused : Except Error SequenceId → SequencerReply
  | .ok id => .started id
  | .error error => .refused error

def perform : SequencerStep → Activity SequencerStage Delivery SequencerReply
  | .startRepeating receiver =>
      return startedOrRefused
        (← onSequencer fun context => Sequencer.startRepeating context receiver)
  | .startMultiFrame receiver =>
      return startedOrRefused
        (← onSequencer fun context => Sequencer.startMultiFrame context receiver)
  | .startTrigger request receiver =>
      return startedOrRefused
        (← onSequencer fun context => Sequencer.startTrigger context request receiver)
  | .stopRepeating => do
      onSequencer Sequencer.stopRepeating
      return .done
  | .abortAll => do
      onSequencer Sequencer.abortAll
      return .done
  | .setParameters request =>
      return .stored (← Activity.step fun stage =>
        let (count, parameters) :=
          stage.context.parameters.set stage.context.capabilities request
        (count, { stage with context := { stage.context with parameters } }))
  | .clearParameters => do
      changeContext fun context => { context with parameters := .empty }
      return .done
  | .signalEnd ended => do
      changeContext fun context => { context with ended }
      return .done
  | .channel step => do
      let hear := (← Activity.read).context.hear
      return .channel (← (step.perform hear).on (·.channel) fun stage channel =>
        { stage with channel })

end SequencerStage

end EyesFree
