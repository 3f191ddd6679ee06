import EyesFree.Metadata.Basic

namespace EyesFree

/-! What a camera extension accepts and reports. -/

structure Capabilities where
  requestKeys : KeySet RequestKey
  resultKeys : KeySet ResultKey
  activeArray : Rect

namespace Capabilities

/-- The capabilities of the eyes-free videography extension: every key but those that control
exposure, flash and noise reduction, or that only report the sensor's timing. -/
def eyesFree (activeArray : Rect) : Capabilities where
  requestKeys := ⟨fun key => !([.controlAeMode, .flashMode, .noiseReductionMode].contains key)⟩
  resultKeys := ⟨fun key => !([.sensorTimestamp, .sensorFrameDuration].contains key)⟩
  activeArray

end Capabilities

instance : Encode Capabilities where
  encode capabilities := .record [("request_keys", encode capabilities.requestKeys),
    ("result_keys", encode capabilities.resultKeys),
    ("active_array", encode capabilities.activeArray)]

instance : Decode Capabilities where
  decode position json := do
    let [requestKeys, resultKeys, activeArray] ←
      json.fields? ["request_keys", "result_keys", "active_array"] | none
    return ⟨← Json.field? position requestKeys, ← Json.field? position resultKeys,
      ← Json.field? position activeArray⟩

end EyesFree
