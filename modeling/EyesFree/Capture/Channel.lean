import EyesFree.Activity
import EyesFree.Capture.Subscription

namespace EyesFree

/-! The request channel of a camera. It takes requests or refuses them at once; what becomes of a
request it took is reported later. -/

/-- What comes of a report about a request: the events that it gives rise to. -/
abbrev Hearing (κ ε : Type) := κ → Request → Report → Except Fault (List ε)

/-- A channel that requests can be submitted to. Operations that end requests report this to the
clients of those requests. -/
class RequestChannel (σ : Type) where
  submit : Subscription → Request → Activity σ Delivery (Except Error Int32)
  setRepeating : Hearing Subscription Delivery → Subscription → Request →
    Activity σ Delivery (Except Error Int32)
  stopRepeating : Hearing Subscription Delivery → Activity σ Delivery Unit
  abortCaptures : Hearing Subscription Delivery → Activity σ Delivery Unit

/-! ## A channel that only records

What it took is kept for its owner, who reports on it. -/

structure RecordingChannel where
  /-- Why requests are refused, while they are. -/
  refusal : Option Error := none
  accepted : List (Subscription × Request) := []
  stops : Nat := 0
  aborts : Nat := 0

namespace RecordingChannel

def accept (client : Subscription) (request : Request) (channel : RecordingChannel) :
    Except Error Int32 × RecordingChannel :=
  match channel.refusal with
  | some error => (.error error, channel)
  | none =>
      (.ok (Int32.ofNat channel.accepted.length),
        { channel with accepted := channel.accepted ++ [(client, request)] })

instance : RequestChannel RecordingChannel where
  submit client request := Activity.step (accept client request)
  setRepeating _ client request := Activity.step (accept client request)
  stopRepeating _ := Activity.modify fun channel => { channel with stops := channel.stops + 1 }
  abortCaptures _ := Activity.modify fun channel => { channel with aborts := channel.aborts + 1 }

end RecordingChannel

end EyesFree
