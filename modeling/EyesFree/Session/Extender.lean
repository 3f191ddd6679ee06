import EyesFree.Session.Basic

namespace EyesFree

/-! Extensions that a camera framework may ask for. -/

inductive ExtenderKind
  | eyesFreeVideography
  /-- Any extension that is not implemented. -/
  | unsupported
deriving DecidableEq, Repr

instance : Enumeration ExtenderKind where
  values := [.eyesFreeVideography, .unsupported]
  nodup := by decide
  complete value := by cases value <;> decide

namespace ExtenderKind

def name : ExtenderKind → String
  | .eyesFreeVideography => "eyes_free_videography"
  | .unsupported => "unsupported"

/-- A kind by one of the names that people use for it. -/
def parse (text : String) : Except Error ExtenderKind :=
  if text ∈ ["eyes_free", "eyes-free", "eyes_free_videography"] then .ok .eyesFreeVideography
  else if text = "unsupported" then .ok .unsupported
  else .error (.config s!"unknown extension: {text}")

end ExtenderKind

instance : Encode ExtenderKind := ⟨fun kind => Json.ofString kind.name⟩

instance : Decode ExtenderKind where
  decode := Json.variant? ExtenderKind.name

/-! ## Cameras -/

structure StreamConfiguration where
  format : ImageFormat
  sizes : List Size
deriving DecidableEq, Repr

instance : Encode StreamConfiguration where
  encode configuration := .record [("format", encode configuration.format),
    ("sizes", encode configuration.sizes)]

instance : Decode StreamConfiguration where
  decode position json := do
    let [format, sizes] ← json.fields? ["format", "sizes"] | none
    return ⟨← Json.field? position format, ← Json.field? position sizes⟩

structure CameraCharacteristics where
  activeArray : Rect
  streams : List StreamConfiguration
deriving DecidableEq, Repr

instance : Encode CameraCharacteristics where
  encode camera := .record [("active_array", encode camera.activeArray),
    ("stream_configurations", encode camera.streams)]

instance : Decode CameraCharacteristics where
  decode position json := do
    let [activeArray, streams] ←
      json.fields? ["active_array", "stream_configurations"] | none
    return ⟨← Json.field? position activeArray, ← Json.field? position streams⟩

/-- For each of the formats, the first configuration that the camera lists for it. -/
def CameraCharacteristics.resolutions (camera : CameraCharacteristics)
    (formats : List ImageFormat) : List StreamConfiguration :=
  formats.filterMap fun format => camera.streams.find? (·.format = format)

/-! ## Extenders -/

/-- The extender for eyes-free videography. It fits every camera, but has to be told which one it
is for before it can answer. -/
structure EyesFreeExtender where
  cameraId : Option String := none
  camera : Option CameraCharacteristics := none
deriving DecidableEq, Repr

inductive Extender
  | eyesFree (extender : EyesFreeExtender)
  | unsupported
deriving DecidableEq, Repr

namespace Extender

def select : ExtenderKind → Extender
  | .eyesFreeVideography => .eyesFree {}
  | .unsupported => .unsupported

def previewFormats : List ImageFormat := [.yuv420, .implementationDefined]

def captureFormats : List ImageFormat := [.yuv420, .jpeg]

def name : Extender → String
  | .eyesFree _ => "eyes_free_videography"
  | .unsupported => "unsupported"

def isAvailable (_cameraId : String) : Extender → Bool
  | .eyesFree _ => true
  | .unsupported => false

def cameraId? : Extender → Option String
  | .eyesFree extender => extender.cameraId
  | .unsupported => none

/-- The camera that the extender is for; the operation that needs it is refused without one. -/
def camera (operation : String) : Extender → Except Error CameraCharacteristics
  | .eyesFree { camera := some camera, .. } => .ok camera
  | .eyesFree _ => .error (.invalidState operation .uninitialized)
  | .unsupported => .error (.unsupported "Extension not supported")

def initialized (cameraId : String) (camera : CameraCharacteristics) :
    Extender → Except Error Extender
  | .eyesFree _ => .ok (.eyesFree ⟨some cameraId, some camera⟩)
  | .unsupported => .error (.unsupported "Extension not supported")

def previewResolutions (extender : Extender) : Except Error (List StreamConfiguration) := do
  return (← extender.camera "supported_preview_resolutions").resolutions previewFormats

def captureResolutions (extender : Extender) : Except Error (List StreamConfiguration) := do
  return (← extender.camera "supported_capture_resolutions").resolutions captureFormats

def capabilities (extender : Extender) : Except Error Capabilities := do
  return .eyesFree (← extender.camera "capabilities").activeArray

def createSession (config : SessionConfig) (extender : Extender) : Except Error Session := do
  return .new (← extender.capabilities) config

end Extender

end EyesFree
