import EyesFree.Activity
import EyesFree.Pacing

namespace EyesFree

/-! Runs of a pacer alone, without a camera that it paces. -/

inductive PacerStep
  /-- Ask whether a tick is due, and take it if it is. -/
  | tick (now : Nat)
  /-- Ask how long it is until the next tick is due. -/
  | remaining (now : Nat)
deriving DecidableEq, Repr

inductive PacerReply
  | ticked (due : Bool)
  | remaining (wait : Nat)
deriving DecidableEq, Repr

namespace Pacer

def perform : PacerStep → Activity Pacer Empty PacerReply
  | .tick now => do
      let (due, pacer) ← Activity.require ((← Activity.read).tick now)
      Activity.modify fun _ => pacer
      return .ticked due
  | .remaining now => return .remaining (← Activity.require ((← Activity.read).remaining now))

end Pacer

end EyesFree
