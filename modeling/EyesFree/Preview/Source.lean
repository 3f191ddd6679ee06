import EyesFree.Metadata.Basic
import EyesFree.Preview.Surface

namespace EyesFree

/-! A bounded queue of frames that a camera fills. Every frame is released at last: at once if the
queue cannot take it, when the queue is closed, or by whoever acquired it. -/

structure Frame where
  timestamp : Timestamp
  size : Size
  format : ImageFormat
deriving DecidableEq, Repr

structure FrameSource where
  surface : SurfaceId
  size : Size
  format : ImageFormat
  /-- How many frames the queue holds at most. -/
  capacity : Nat
  /-- The frames in the queue, oldest first. -/
  queue : List Frame := []
  /-- Whether someone is notified of each frame that enters the queue. -/
  listened : Bool := false
  closed : Bool := false
  closeCalls : Nat := 0
  produced : Nat := 0
  released : Nat := 0
deriving DecidableEq, Repr

namespace FrameSource

/-- An empty queue. It holds at least one frame. -/
def of (surface : SurfaceId) (size : Size) (format : ImageFormat) (maxImages : Nat) :
    FrameSource where
  surface
  size
  format
  capacity := max maxImages 1

def release (count : Nat) (source : FrameSource) : FrameSource :=
  { source with released := source.released + count }

def accepts (source : FrameSource) : Bool :=
  !source.closed && decide (source.queue.length < source.capacity)

/-- Produce a frame. A frame that cannot enter the queue is released. -/
def produce (timestamp : Timestamp) (source : FrameSource) : Bool × FrameSource :=
  let counted := { source with produced := source.produced + 1 }
  if source.accepts then
    (true, { counted with queue := source.queue ++ [⟨timestamp, source.size, source.format⟩] })
  else (false, counted.release 1)

def acquire (source : FrameSource) : Option Frame × FrameSource :=
  match source.queue with
  | [] => (none, source)
  | frame :: rest => (some frame, { source with queue := rest })

def setListened (listened : Bool) (source : FrameSource) : FrameSource := { source with listened }

/-- Close the queue, release what is in it and notify no one any more. Only the first call has an
effect. -/
def close (source : FrameSource) : FrameSource :=
  if source.closed then source
  else
    { source.release source.queue.length with
      closed := true
      closeCalls := source.closeCalls + 1
      queue := []
      listened := false }

end FrameSource

/-! ## Listeners that take frames themselves -/

/-- A listener that counts notifications and may take one frame each time. -/
structure CountingListener where
  takes : Bool
  calls : Nat := 0
  taken : List Timestamp := []
deriving DecidableEq, Repr

/-- Notify a counting listener. A frame that it takes is released. -/
def CountingListener.notify (listener : CountingListener) (source : FrameSource) :
    CountingListener × FrameSource :=
  let counted := { listener with calls := listener.calls + 1 }
  if listener.takes then
    match source.acquire with
    | (none, source) => (counted, source)
    | (some frame, source) =>
        ({ counted with taken := listener.taken ++ [frame.timestamp] }, source.release 1)
  else (counted, source)

end EyesFree
