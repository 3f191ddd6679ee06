import EyesFree.Metadata.Geometry

namespace EyesFree

/-! Output surfaces as clients describe them. -/

abbrev SurfaceId := UInt64

structure OutputSurface where
  /-- Nothing when the client does not ask for this output. -/
  surface : Option SurfaceId
  size : Size
  format : ImageFormat
  usage : UInt64
deriving DecidableEq, Repr

namespace OutputSurface

def of (surface : SurfaceId) (size : Size) (format : ImageFormat) : OutputSurface :=
  ⟨some surface, size, format, 0⟩

def absent : OutputSurface := ⟨none, ⟨0, 0⟩, .implementationDefined, 0⟩

def isPresent (output : OutputSurface) : Bool := output.surface.isSome

end OutputSurface

instance : Encode OutputSurface where
  encode output := .record [("surface", encode output.surface), ("size", encode output.size),
    ("format", encode output.format), ("usage", encode output.usage)]

instance : Decode OutputSurface where
  decode position json := do
    let [surface, size, format, usage] ←
      json.fields? ["surface", "size", "format", "usage"] | none
    return ⟨← Json.field? position surface, ← Json.field? position size,
      ← Json.field? position format, ← Json.field? position usage⟩

end EyesFree
