import EyesFree.Metadata.Capabilities

namespace EyesFree

/-! The parameters that a client has set and that every following request is made with. -/

structure Parameters where
  entries : CaptureRequest
deriving DecidableEq

namespace Parameters

def empty : Parameters := ⟨.empty⟩

/-- Store the entries of a request whose keys are published, and count them. -/
def set (capabilities : Capabilities) (parameters : Parameters) (request : CaptureRequest) :
    Nat × Parameters :=
  request.entries.foldl
    (fun (applied, stored) (key, value) =>
      if capabilities.requestKeys.contains key then (applied + 1, ⟨stored.entries.set key value⟩)
      else (applied, stored))
    (0, parameters)

def snapshot (parameters : Parameters) : Snapshot := ⟨parameters.entries.entries⟩

def size (parameters : Parameters) : Nat := parameters.entries.size

def isEmpty (parameters : Parameters) : Bool := parameters.entries.isEmpty

end Parameters

/-- The entries of a request whose keys are published, as a trigger uses them without storing. -/
def CaptureRequest.supported (request : CaptureRequest) (capabilities : Capabilities) : Snapshot :=
  ⟨request.entries.filter fun entry => capabilities.requestKeys.contains entry.1⟩

end EyesFree
