import EyesFree.Preview.Output

namespace EyesFree

/-! Runs of the shared slot over outputs that may fail to open or be given up. -/

inductive SlotStep
  /-- Open an output on a surface and put it into the slot. -/
  | install (surface : SurfaceId)
  | queue (timestamp : Timestamp)
  | release
  | failWriter (failing : Bool)
  | abandon (output : Nat)
deriving DecidableEq, Repr

inductive SlotReply
  | done
  | released (installed : Bool)
  | refused (error : Error)
deriving DecidableEq, Repr

structure SlotStage where
  slot : OutputSlot := {}
  surfaces : Surfaces := {}
deriving DecidableEq

namespace SlotStage

def install (surface : SurfaceId) (stage : SlotStage) : SlotReply × SlotStage :=
  match stage.surfaces.openOutput surface with
  | (.error error, surfaces) => (.refused error, { stage with surfaces })
  | (.ok output, surfaces) =>
      let (slot, surfaces) := stage.slot.install output surfaces
      (.done, ⟨slot, surfaces⟩)

def perform : SlotStep → SlotStage → SlotReply × SlotStage
  | .install surface, stage => stage.install surface
  | .queue timestamp, stage =>
      match stage.slot.queue timestamp stage.surfaces with
      | (.ok _, surfaces) => (.done, { stage with surfaces })
      | (.error error, surfaces) => (.refused error, { stage with surfaces })
  | .release, stage =>
      let (installed, slot, surfaces) := stage.slot.release stage.surfaces
      (.released installed, ⟨slot, surfaces⟩)
  | .failWriter failing, stage =>
      (.done, { stage with surfaces := { stage.surfaces with failWriter := failing } })
  | .abandon output, stage =>
      (.done, { stage with surfaces := stage.surfaces.abandon output })

end SlotStage

end EyesFree
