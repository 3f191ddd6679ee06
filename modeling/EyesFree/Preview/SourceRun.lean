import EyesFree.Preview.Source

namespace EyesFree

/-! Runs of a frame source with someone who listens to it and someone who holds frames. -/

inductive SourceStep
  | produce (timestamp : Timestamp)
  /-- Take the oldest frame and release it at once. -/
  | acquire
  /-- Take the oldest frame and hold it. -/
  | hold
  | releaseHeld
  | listen (takes : Bool)
  | unlisten
  | close
deriving DecidableEq, Repr

inductive SourceReply
  | done
  | entered (accepted : Bool)
  /-- The frame that was taken, if there was one. -/
  | taken (frame : Option Frame)
deriving DecidableEq, Repr

/-- A source, the listener that it was given last, and the frames that are held. -/
structure WatchedSource where
  source : FrameSource
  listener : Option CountingListener := none
  held : List Frame := []
deriving DecidableEq, Repr

namespace WatchedSource

def produce (timestamp : Timestamp) (watched : WatchedSource) : SourceReply × WatchedSource :=
  match watched.source.produce timestamp, watched.listener with
  | (true, source), some listener =>
      if source.listened then
        let (listener, source) := listener.notify source
        (.entered true, { watched with source, listener := some listener })
      else (.entered true, { watched with source })
  | (entered, source), _ => (.entered entered, { watched with source })

def perform : SourceStep → WatchedSource → SourceReply × WatchedSource
  | .produce timestamp, watched => watched.produce timestamp
  | .acquire, watched =>
      let (frame, source) := watched.source.acquire
      (.taken frame, { watched with source := source.release frame.toList.length })
  | .hold, watched =>
      let (frame, source) := watched.source.acquire
      (.taken frame, { watched with source, held := watched.held ++ frame.toList })
  | .releaseHeld, watched =>
      (.done, { watched with source := watched.source.release watched.held.length, held := [] })
  | .listen takes, watched =>
      (.done, { watched with
        source := watched.source.setListened true, listener := some { takes } })
  | .unlisten, watched => (.done, { watched with source := watched.source.setListened false })
  | .close, watched => (.done, { watched with source := watched.source.close })

end WatchedSource

end EyesFree
