import EyesFree.Activity
import EyesFree.Preview.SourceRun

namespace EyesFree

/-! Runs of a frame source whose frames are released at once or held for any time, by a listener or
by whoever else takes them. What a listener does may depend on all that it was notified of, so that
it is chosen with each frame that is produced. -/

inductive FrameUse
  | release
  | hold
deriving DecidableEq, Repr

inductive UseStep
  /-- Produce a frame. A listener that is notified of it takes no frame, or the oldest one. -/
  | produce (timestamp : Timestamp) (answer : Option FrameUse)
  | take (use : FrameUse)
  /-- Release a frame that is held, if there is one at this place. -/
  | letGo (place : Nat)
  | listen (listened : Bool)
  | close
deriving DecidableEq, Repr

inductive UseReply
  | done
  /-- Whether a frame entered the queue, whether a listener was notified of it, and what that
  listener took. -/
  | produced (accepted notified : Bool) (taken : Option Frame)
  /-- The frame that was taken, if there was one. -/
  | taken (frame : Option Frame)
deriving DecidableEq, Repr

structure UsedSource where
  source : FrameSource
  /-- The frames that were taken and not yet released, oldest first. -/
  held : List Frame := []
deriving DecidableEq, Repr

namespace UsedSource

def take (use : FrameUse) (used : UsedSource) : Option Frame × UsedSource :=
  match used.source.acquire, use with
  | (none, source), _ => (none, { used with source })
  | (some frame, source), .release => (some frame, { used with source := source.release 1 })
  | (some frame, source), .hold => (some frame, { source, held := used.held ++ [frame] })

def notify (answer : Option FrameUse) (used : UsedSource) : Option Frame × UsedSource :=
  match answer with
  | none => (none, used)
  | some use => used.take use

def produce (timestamp : Timestamp) (answer : Option FrameUse) (used : UsedSource) :
    UseReply × UsedSource :=
  match used.source.produce timestamp with
  | (false, source) => (.produced false false none, { used with source })
  | (true, source) =>
      if source.listened then
        let (taken, used) := notify answer { used with source }
        (.produced true true taken, used)
      else (.produced true false none, { used with source })

def letGo (place : Nat) (used : UsedSource) : UsedSource :=
  match used.held[place]? with
  | none => used
  | some _ => { source := used.source.release 1, held := used.held.eraseIdx place }

def change : UseStep → UsedSource → UseReply × UsedSource
  | .produce timestamp answer, used => used.produce timestamp answer
  | .take use, used =>
      let (frame, used) := used.take use
      (.taken frame, used)
  | .letGo place, used => (.done, used.letGo place)
  | .listen listened, used => (.done, { used with source := used.source.setListened listened })
  | .close, used => (.done, { used with source := used.source.close })

def perform (step : UseStep) : Activity UsedSource Empty UseReply := Activity.step (change step)

end UsedSource

/-! ## A counting listener as one of the listeners -/

def CountingListener.answer (listener : CountingListener) : Option FrameUse :=
  if listener.takes then some .release else none

namespace WatchedSource

def used (watched : WatchedSource) : UsedSource := ⟨watched.source, watched.held⟩

def uses (watched : WatchedSource) : SourceStep → List UseStep
  | .produce timestamp => [.produce timestamp (watched.listener.bind (·.answer))]
  | .acquire => [.take .release]
  | .hold => [.take .hold]
  | .releaseHeld => List.replicate watched.held.length (.letGo 0)
  | .listen _ => [.listen true]
  | .unlisten => [.listen false]
  | .close => [.close]

end WatchedSource

end EyesFree
