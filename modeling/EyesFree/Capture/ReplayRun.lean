import EyesFree.Capture.Replay

namespace EyesFree

/-! Steps of the replaying channel as data: what it is told to report, and the calls of those who
submit requests to it. -/

inductive ChannelReply
  | done
  /-- Whether a repeating request was running. -/
  | flag (value : Bool)
  /-- How many pending requests were ended. -/
  | count (value : Nat)
deriving DecidableEq, Repr

inductive ChannelStep
  | reject (rejecting : Bool)
  | fireRepeating (timestamp : Timestamp)
  | failRepeating (reason : FailureReason)
  | completePending (timestamp : Timestamp)
  | completePendingWith (result : CaptureResult)
  | failPending (reason : FailureReason)
  | losePending
deriving DecidableEq

namespace ChannelStep

def perform {κ ε : Type} (hear : Hearing κ ε) :
    ChannelStep → Activity (ReplayChannel κ) ε ChannelReply
  | .reject rejecting => do
      Activity.modify fun channel => { channel with rejecting }
      return .done
  | .fireRepeating timestamp => return .flag (← ReplayChannel.fireRepeating hear timestamp)
  | .failRepeating reason => return .flag (← ReplayChannel.failRepeating hear reason)
  | .completePending timestamp => return .count (← ReplayChannel.completePending hear timestamp)
  | .completePendingWith result => return .count (← ReplayChannel.completePendingWith hear result)
  | .failPending reason => return .count (← ReplayChannel.failPending hear reason)
  | .losePending => return .count (← ReplayChannel.losePending hear)

end ChannelStep

inductive ChannelCall (κ : Type)
  | submit (client : κ) (request : Request)
  | setRepeating (client : κ) (request : Request)
  | stopRepeating
  | abortCaptures
deriving DecidableEq

namespace ChannelCall

/-- The answer to a request is the channel's number for it, if the channel took it. -/
def perform {κ ε : Type} (hear : Hearing κ ε) :
    ChannelCall κ → Activity (ReplayChannel κ) ε (Option Int32)
  | .submit client request => return (← ReplayChannel.submit client request).toOption
  | .setRepeating client request =>
      return (← ReplayChannel.setRepeating hear client request).toOption
  | .stopRepeating => do
      ReplayChannel.stopRepeating hear
      return none
  | .abortCaptures => do
      ReplayChannel.abortCaptures hear
      return none

end ChannelCall

inductive ChannelAction (κ : Type)
  | call (asked : ChannelCall κ)
  | replay (step : ChannelStep)
deriving DecidableEq

inductive ActionReply
  | call (channelSequence : Option Int32)
  | replay (reply : ChannelReply)
deriving DecidableEq

namespace ChannelAction

def perform {κ ε : Type} (hear : Hearing κ ε) :
    ChannelAction κ → Activity (ReplayChannel κ) ε ActionReply
  | .call asked => return .call (← asked.perform hear)
  | .replay step => return .replay (← step.perform hear)

end ChannelAction

end EyesFree
