import EyesFree.Activity
import EyesFree.Preview.SlotRun

namespace EyesFree

/-! Runs of the shared slot in which outputs are also opened by a step of their own. The writer of
such an output is at hand until it is put into the slot, which can be done once. -/

inductive WriterStep
  /-- Open an output on a surface. -/
  | openWriter (surface : SurfaceId)
  /-- Put the writer of an output into the slot, if it is at hand. -/
  | install (output : Nat)
  | slot (step : SlotStep)
deriving DecidableEq, Repr

inductive WriterReply
  | opened (output : Nat)
  /-- The writer is not at hand. -/
  | absent
  | slot (reply : SlotReply)
deriving DecidableEq, Repr

structure WriterStage extends SlotStage where
  /-- The outputs whose writers are at hand. -/
  atHand : List Nat := []
deriving DecidableEq

namespace WriterStage

def openWriter (surface : SurfaceId) (stage : WriterStage) : WriterReply × WriterStage :=
  match stage.surfaces.openOutput surface with
  | (.error error, surfaces) => (.slot (.refused error), { stage with surfaces })
  | (.ok output, surfaces) =>
      (.opened output, { stage with surfaces, atHand := stage.atHand ++ [output] })

def install (output : Nat) (stage : WriterStage) : WriterReply × WriterStage :=
  if output ∈ stage.atHand then
    let (slot, surfaces) := stage.slot.install output stage.surfaces
    (.slot .done, { slot, surfaces, atHand := stage.atHand.erase output })
  else (.absent, stage)

def onSlot (step : SlotStep) (stage : WriterStage) : WriterReply × WriterStage :=
  let (reply, changed) := SlotStage.perform step stage.toSlotStage
  (.slot reply, { stage with toSlotStage := changed })

def perform : WriterStep → Activity WriterStage Empty WriterReply
  | .openWriter surface => Activity.step (openWriter surface)
  | .install output => Activity.step (install output)
  | .slot step => Activity.step (onSlot step)

end WriterStage

end EyesFree
