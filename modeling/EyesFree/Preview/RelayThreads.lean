import EyesFree.Preview.Relay

namespace EyesFree

/-! A relay among threads: any number of producers, its worker, and any number of calls that shut it
down. Each thread goes on in steps that happen at once; the steps of different threads may come in
any order. Frames and calls are known by the order in which they begin. -/

inductive OfferProgress
  /-- The flag was not looked at yet. -/
  | entering
  /-- The flag was raised for this frame, which is not sent yet. -/
  | claimed
  /-- The frame could not be sent; the flag is still up. -/
  | unsent
  /-- The frame will be dropped; it is not counted yet. -/
  | refused
  /-- The dropped frame is counted and not released yet. -/
  | counted
  | answered (offer : Offer)
deriving DecidableEq, Repr

inductive ShutdownProgress
  /-- The sender was not taken away yet. -/
  | entering
  /-- No more frames are taken; the handle of the worker was not looked at yet. -/
  | severed
  /-- The call took the handle and awaits the end of the worker. -/
  | joining
  /-- Only the call that took the handle joined the worker. -/
  | returned (joined : Bool)
deriving DecidableEq, Repr

structure RelayThreads where
  relay : Relay Nat := {}
  offers : List OfferProgress := []
  /-- The frames that were sent to the worker, in this order. -/
  accepted : List Nat := []
  /-- The frames that were written to the output, in this order. -/
  written : List Nat := []
  /-- The frames that were released, in this order. -/
  released : List Nat := []
  shutdowns : List ShutdownProgress := []
  /-- Whether the handle of the worker is still there to be taken. -/
  joinable : Bool := true
deriving DecidableEq, Repr

inductive RelayAction
  | offer
  | advance (frame : Nat)
  /-- The worker takes its next step. If it writes a frame, the output queues or refuses it. -/
  | work (queued : Bool)
  | shutdown
  | proceed (call : Nat)
deriving DecidableEq, Repr

namespace RelayThreads

def reach (frame : Nat) (progress : OfferProgress) (threads : RelayThreads) : RelayThreads :=
  { threads with offers := threads.offers.set frame progress }

def advance (frame : Nat) (threads : RelayThreads) : Option RelayThreads :=
  match threads.offers[frame]? with
  | some .entering =>
      match threads.relay.claim with
      | some relay => some ({ threads with relay }.reach frame .claimed)
      | none => some (threads.reach frame .refused)
  | some .claimed =>
      match threads.relay.send frame with
      | some relay =>
          some ({ threads with relay, accepted := threads.accepted ++ [frame] }.reach frame
            (.answered .accepted))
      | none => some (threads.reach frame .unsent)
  | some .unsent => some ({ threads with relay := threads.relay.lower }.reach frame .refused)
  | some .refused =>
      some ({ threads with relay := threads.relay.countDropped }.reach frame .counted)
  | some .counted =>
      some ({ threads with released := threads.released ++ [frame] }.reach frame
        (.answered .dropped))
  | some (.answered _) => none
  | none => none

/-- The worker waits as long as there is no frame and there may still be one. -/
def work (queued : Bool) (threads : RelayThreads) : Option RelayThreads :=
  match threads.relay.worker with
  | .waiting =>
      if threads.relay.sending && threads.relay.slot.isNone then none
      else some { threads with relay := threads.relay.receive }
  | .forwarding frame =>
      some { threads with
        relay := threads.relay.write queued, written := threads.written ++ [frame] }
  | .written frame _ =>
      some { threads with
        relay := threads.relay.release, released := threads.released ++ [frame] }
  | .forwarded _ => some { threads with relay := threads.relay.clear }
  | .cleared _ => some { threads with relay := threads.relay.count }
  | .stopped => none

def reachShutdown (call : Nat) (progress : ShutdownProgress) (threads : RelayThreads) :
    RelayThreads :=
  { threads with shutdowns := threads.shutdowns.set call progress }

/-- The call that has the handle waits until the worker ended. -/
def proceed (call : Nat) (threads : RelayThreads) : Option RelayThreads :=
  match threads.shutdowns[call]? with
  | some .entering =>
      some ({ threads with relay := threads.relay.stopSending }.reachShutdown call .severed)
  | some .severed =>
      if threads.joinable then
        some ({ threads with joinable := false }.reachShutdown call .joining)
      else some (threads.reachShutdown call (.returned false))
  | some .joining =>
      if threads.relay.worker = .stopped then
        some (threads.reachShutdown call (.returned true))
      else none
  | some (.returned _) => none
  | none => none

def act (threads : RelayThreads) : RelayAction → Option RelayThreads
  | .offer => some { threads with offers := threads.offers ++ [.entering] }
  | .advance frame => threads.advance frame
  | .work queued => threads.work queued
  | .shutdown => some { threads with shutdowns := threads.shutdowns ++ [.entering] }
  | .proceed call => threads.proceed call

def run (threads : RelayThreads) (actions : List RelayAction) : Option RelayThreads :=
  actions.foldlM act threads

end RelayThreads

end EyesFree
