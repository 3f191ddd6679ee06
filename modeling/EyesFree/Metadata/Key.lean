import EyesFree.Json.Codec

namespace EyesFree

/-! The vocabulary of capture metadata. A key has a name in JSON and a dotted name that people
read. Which keys an extension accepts and reports is a matter of its capabilities. -/

/-- What the keys of requests and of results have in common. -/
class MetadataKey (κ : Type) extends Enumeration κ where
  decEq : DecidableEq κ
  name : κ → String
  name_injective : Function.Injective name

instance (priority := low) {κ : Type} [MetadataKey κ] : DecidableEq κ := MetadataKey.decEq

inductive RequestKey
  | controlZoomRatio
  | controlAfMode
  | controlAfRegions
  | controlAfTrigger
  | jpegQuality
  | jpegOrientation
  | paddingZoomFactor
  | autoZoom
  | maxPaddingZoomFactor
  | stabilizationMode
  | translateViewport
  | rotateViewport
  | controlAeMode
  | flashMode
  | noiseReductionMode
deriving DecidableEq, Repr

namespace RequestKey

def name : RequestKey → String
  | .controlZoomRatio => "control_zoom_ratio"
  | .controlAfMode => "control_af_mode"
  | .controlAfRegions => "control_af_regions"
  | .controlAfTrigger => "control_af_trigger"
  | .jpegQuality => "jpeg_quality"
  | .jpegOrientation => "jpeg_orientation"
  | .paddingZoomFactor => "efv_padding_zoom_factor"
  | .autoZoom => "efv_auto_zoom"
  | .maxPaddingZoomFactor => "efv_max_padding_zoom_factor"
  | .stabilizationMode => "efv_stabilization_mode"
  | .translateViewport => "efv_translate_viewport"
  | .rotateViewport => "efv_rotate_viewport"
  | .controlAeMode => "control_ae_mode"
  | .flashMode => "flash_mode"
  | .noiseReductionMode => "noise_reduction_mode"

def dottedName : RequestKey → String
  | .controlZoomRatio => "control.zoomRatio"
  | .controlAfMode => "control.afMode"
  | .controlAfRegions => "control.afRegions"
  | .controlAfTrigger => "control.afTrigger"
  | .jpegQuality => "jpeg.quality"
  | .jpegOrientation => "jpeg.orientation"
  | .paddingZoomFactor => "efv.paddingZoomFactor"
  | .autoZoom => "efv.autoZoom"
  | .maxPaddingZoomFactor => "efv.maxPaddingZoomFactor"
  | .stabilizationMode => "efv.stabilizationMode"
  | .translateViewport => "efv.translateViewport"
  | .rotateViewport => "efv.rotateViewport"
  | .controlAeMode => "control.aeMode"
  | .flashMode => "flash.mode"
  | .noiseReductionMode => "noiseReduction.mode"

end RequestKey

instance : MetadataKey RequestKey where
  values := [.controlZoomRatio, .controlAfMode, .controlAfRegions, .controlAfTrigger,
    .jpegQuality, .jpegOrientation, .paddingZoomFactor, .autoZoom, .maxPaddingZoomFactor,
    .stabilizationMode, .translateViewport, .rotateViewport, .controlAeMode, .flashMode,
    .noiseReductionMode]
  nodup := by decide
  complete key := by cases key <;> decide
  decEq := inferInstance
  name := RequestKey.name
  name_injective left right := by cases left <;> cases right <;> decide

def RequestKey.ofDottedName? (text : String) : Option RequestKey :=
  Enumeration.named? RequestKey.dottedName text

inductive ResultKey
  | controlZoomRatio
  | controlAfMode
  | controlAfRegions
  | controlAfTrigger
  | controlAfState
  | jpegQuality
  | jpegOrientation
  | paddingRegion
  | autoZoom
  | maxPaddingZoomFactor
  | autoZoomPaddingRegion
  | stabilizationMode
  | targetCoordinates
  | paddingZoomFactor
  | translateViewport
  | rotateViewport
  | sensorTimestamp
  | sensorFrameDuration
deriving DecidableEq, Repr

namespace ResultKey

def name : ResultKey → String
  | .controlZoomRatio => "control_zoom_ratio"
  | .controlAfMode => "control_af_mode"
  | .controlAfRegions => "control_af_regions"
  | .controlAfTrigger => "control_af_trigger"
  | .controlAfState => "control_af_state"
  | .jpegQuality => "jpeg_quality"
  | .jpegOrientation => "jpeg_orientation"
  | .paddingRegion => "efv_padding_region"
  | .autoZoom => "efv_auto_zoom"
  | .maxPaddingZoomFactor => "efv_max_padding_zoom_factor"
  | .autoZoomPaddingRegion => "efv_auto_zoom_padding_region"
  | .stabilizationMode => "efv_stabilization_mode"
  | .targetCoordinates => "efv_target_coordinates"
  | .paddingZoomFactor => "efv_padding_zoom_factor"
  | .translateViewport => "efv_translate_viewport"
  | .rotateViewport => "efv_rotate_viewport"
  | .sensorTimestamp => "sensor_timestamp"
  | .sensorFrameDuration => "sensor_frame_duration"

def dottedName : ResultKey → String
  | .controlZoomRatio => "control.zoomRatio"
  | .controlAfMode => "control.afMode"
  | .controlAfRegions => "control.afRegions"
  | .controlAfTrigger => "control.afTrigger"
  | .controlAfState => "control.afState"
  | .jpegQuality => "jpeg.quality"
  | .jpegOrientation => "jpeg.orientation"
  | .paddingRegion => "efv.paddingRegion"
  | .autoZoom => "efv.autoZoom"
  | .maxPaddingZoomFactor => "efv.maxPaddingZoomFactor"
  | .autoZoomPaddingRegion => "efv.autoZoomPaddingRegion"
  | .stabilizationMode => "efv.stabilizationMode"
  | .targetCoordinates => "efv.targetCoordinates"
  | .paddingZoomFactor => "efv.paddingZoomFactor"
  | .translateViewport => "efv.translateViewport"
  | .rotateViewport => "efv.rotateViewport"
  | .sensorTimestamp => "sensor.timestamp"
  | .sensorFrameDuration => "sensor.frameDuration"

end ResultKey

instance : MetadataKey ResultKey where
  values := [.controlZoomRatio, .controlAfMode, .controlAfRegions, .controlAfTrigger,
    .controlAfState, .jpegQuality, .jpegOrientation, .paddingRegion, .autoZoom,
    .maxPaddingZoomFactor, .autoZoomPaddingRegion, .stabilizationMode, .targetCoordinates,
    .paddingZoomFactor, .translateViewport, .rotateViewport, .sensorTimestamp,
    .sensorFrameDuration]
  nodup := by decide
  complete key := by cases key <;> decide
  decEq := inferInstance
  name := ResultKey.name
  name_injective left right := by cases left <;> cases right <;> decide

instance (priority := low) {κ : Type} [MetadataKey κ] : Encode κ :=
  ⟨fun key => Json.ofString (MetadataKey.name key)⟩

instance (priority := low) {κ : Type} [MetadataKey κ] : Decode κ where
  decode := Json.variant? MetadataKey.name

/-! ## Sets of keys -/

/-- A set of keys. It is traversed in the order of the keys. -/
structure KeySet (κ : Type) where
  contains : κ → Bool

namespace KeySet

def ofList {κ : Type} [DecidableEq κ] (keys : List κ) : KeySet κ := ⟨fun key => keys.contains key⟩

def toList {κ : Type} [Enumeration κ] (keys : KeySet κ) : List κ :=
  Enumeration.values.filter keys.contains

@[simp] theorem mem_toList {κ : Type} [Enumeration κ] {keys : KeySet κ} {key : κ} :
    key ∈ keys.toList ↔ keys.contains key := by
  simp [toList, Enumeration.complete]

@[simp] theorem ofList_toList {κ : Type} [Enumeration κ] [DecidableEq κ] (keys : KeySet κ) :
    ofList keys.toList = keys := by
  obtain ⟨contains⟩ := keys
  simp only [ofList, mk.injEq]
  funext key
  by_cases member : contains key <;> simp [toList, member, Enumeration.complete]

end KeySet

instance {κ : Type} [MetadataKey κ] : Encode (KeySet κ) := ⟨fun keys => encode keys.toList⟩

instance {κ : Type} [MetadataKey κ] : Decode (KeySet κ) where
  decode position json := (Decode.decode position json).map KeySet.ofList

end EyesFree
