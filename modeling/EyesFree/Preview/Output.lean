import EyesFree.Error
import EyesFree.Preview.Source

namespace EyesFree

/-! The surfaces of a capture stack: the internal frame sources it makes and the outputs of clients
that it opens. Both are known by their place in the order of creation. -/

structure Output where
  surface : SurfaceId
  /-- The timestamps of the frames queued, oldest first. -/
  queued : List Timestamp := []
  /-- Whether the client gave the surface up; it then refuses frames. -/
  abandoned : Bool := false
  closeCalls : Nat := 0
deriving DecidableEq, Repr

structure Surfaces where
  next : SurfaceId := 1000
  failWriter : Bool := false
  /-- Why making a source fails, while it does. -/
  failSource : Option Error := none
  sources : List FrameSource := []
  outputs : List Output := []
deriving DecidableEq

namespace Surfaces

def allocate (surfaces : Surfaces) : SurfaceId × Surfaces :=
  (surfaces.next, { surfaces with next := surfaces.next + 1 })

def createSource (size : Size) (format : ImageFormat) (maxImages : Nat) (surfaces : Surfaces) :
    Except Error Nat × Surfaces :=
  match surfaces.failSource with
  | some error => (.error error, surfaces)
  | none =>
      let (surface, surfaces) := surfaces.allocate
      (.ok surfaces.sources.length,
        { surfaces with
          sources := surfaces.sources ++ [FrameSource.of surface size format maxImages] })

def openOutput (surface : SurfaceId) (surfaces : Surfaces) : Except Error Nat × Surfaces :=
  if surfaces.failWriter then
    (.error (.surface s!"surface {surface.toNat} is not valid"), surfaces)
  else (.ok surfaces.outputs.length, { surfaces with outputs := surfaces.outputs ++ [{ surface }] })

def source? (surfaces : Surfaces) (source : Nat) : Option FrameSource := surfaces.sources[source]?

def output? (surfaces : Surfaces) (output : Nat) : Option Output := surfaces.outputs[output]?

def updateSource (source : Nat) (change : FrameSource → FrameSource) (surfaces : Surfaces) :
    Surfaces :=
  { surfaces with sources := surfaces.sources.modify source change }

def updateOutput (output : Nat) (change : Output → Output) (surfaces : Surfaces) : Surfaces :=
  { surfaces with outputs := surfaces.outputs.modify output change }

def abandon (output : Nat) (surfaces : Surfaces) : Surfaces :=
  surfaces.updateOutput output fun output => { output with abandoned := true }

def queue (output : Nat) (timestamp : Timestamp) (surfaces : Surfaces) :
    Except Error Unit × Surfaces :=
  match surfaces.output? output with
  | none => (.error (.surface "output writer already released"), surfaces)
  | some target =>
      if target.abandoned then
        (.error (.surface s!"surface {target.surface.toNat} abandoned"), surfaces)
      else
        (.ok (), surfaces.updateOutput output fun output =>
          { output with queued := output.queued ++ [timestamp] })

def closeOutput (output : Nat) (surfaces : Surfaces) : Surfaces :=
  surfaces.updateOutput output fun output => { output with closeCalls := output.closeCalls + 1 }

end Surfaces

/-! ## The shared slot

The session and the worker of the relay share one slot, which holds the output that preview frames
go to. -/

structure OutputSlot where
  installed : Option Nat := none
deriving DecidableEq, Repr

namespace OutputSlot

def isInstalled (slot : OutputSlot) : Bool := slot.installed.isSome

def closeInstalled (slot : OutputSlot) (surfaces : Surfaces) : Surfaces :=
  match slot.installed with
  | none => surfaces
  | some output => surfaces.closeOutput output

/-- Put an output into the slot. One that was there before is closed. -/
def install (output : Nat) (slot : OutputSlot) (surfaces : Surfaces) : OutputSlot × Surfaces :=
  (⟨some output⟩, slot.closeInstalled surfaces)

def queue (timestamp : Timestamp) (slot : OutputSlot) (surfaces : Surfaces) :
    Except Error Unit × Surfaces :=
  match slot.installed with
  | none => (.error (.surface "output writer already released"), surfaces)
  | some output => surfaces.queue output timestamp

/-- Close the output in the slot and empty it. The answer is whether there was one. -/
def release (slot : OutputSlot) (surfaces : Surfaces) : Bool × OutputSlot × Surfaces :=
  (slot.isInstalled, ⟨none⟩, slot.closeInstalled surfaces)

def describe (slot : OutputSlot) : String :=
  "SharedWriter \x7b installed: " ++ toString slot.isInstalled ++ " \x7d"

end OutputSlot

end EyesFree
