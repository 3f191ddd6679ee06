import EyesFree.Activity
import EyesFree.Capture.Parameters

namespace EyesFree

/-! Runs of the stored parameters alone, without a session around them. -/

inductive ParametersStep
  | set (request : CaptureRequest)
  | clear
deriving DecidableEq

inductive ParametersReply
  | done
  | stored (count : Nat)
deriving DecidableEq, Repr

namespace Parameters

def perform {ε : Type} (capabilities : Capabilities) :
    ParametersStep → Activity Parameters ε ParametersReply
  | .set request => return .stored (← Activity.step fun parameters =>
      parameters.set capabilities request)
  | .clear => do
      Activity.modify fun _ => .empty
      return .done

end Parameters

end EyesFree
