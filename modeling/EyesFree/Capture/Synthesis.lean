import EyesFree.Metadata.Capabilities

namespace EyesFree

/-! The metadata that a client receives about a completed capture. It starts from the published
part of what the camera reports; entries that depend on the parameters of the request are laid over
it. The composite entries are there only if their combination of parameters was asked for. -/

def paddingRegion : Value := .intArray [5, 5, 5, 5]

def autoZoomPaddingRegion : Value := .intArray [3, 3, 3, 3]

/-- Half the side of the target square. -/
def targetHalfExtent : Int32 := 5

/-- The corners of a small square around the center of a rectangle's extent, clockwise from the
top-left. -/
def Rect.targetCoordinates (rect : Rect) : Except Fault (List Point) := do
  let x := (← rect.width) / 2
  let y := (← rect.height) / 2
  let left ← subInt32 x targetHalfExtent
  let top ← subInt32 y targetHalfExtent
  let right ← addInt32 x targetHalfExtent
  let bottom ← addInt32 y targetHalfExtent
  let corner (x y : Int32) : Point := ⟨.ofInt x.toInt, .ofInt y.toInt⟩
  return [corner left top, corner right top, corner right bottom, corner left bottom]

namespace Snapshot

def autoZoom (snapshot : Snapshot) : Bool :=
  ((snapshot.get? .autoZoom).bind Value.asBool?).getD false

def stabilization? (snapshot : Snapshot) : Option StabilizationMode :=
  (snapshot.get? .stabilizationMode).bind StabilizationMode.ofValue?

def locked (snapshot : Snapshot) : Bool := decide (snapshot.stabilization? = some .locked)

end Snapshot

/-- The request keys whose values are reported back as they were asked for. -/
def echoedKeys : List (RequestKey × ResultKey) :=
  [(.paddingZoomFactor, .paddingZoomFactor), (.translateViewport, .translateViewport),
    (.rotateViewport, .rotateViewport)]

/-- The metadata delivered for a request with the given parameters and the camera's report. -/
def Capabilities.synthesize (capabilities : Capabilities) (snapshot : Snapshot)
    (result : CaptureResult) : Except Fault CaptureResult := do
  let mut bundle := result.restrict capabilities.resultKeys
  if snapshot.autoZoom then
    bundle := (bundle.set .autoZoom (.bool true)).setSome .maxPaddingZoomFactor
      (snapshot.get? .maxPaddingZoomFactor)
  for (requestKey, resultKey) in echoedKeys do
    bundle := bundle.setSome resultKey (snapshot.get? requestKey)
  if snapshot.locked then
    let corners ← capabilities.activeArray.targetCoordinates
    bundle := (bundle.set .paddingRegion paddingRegion).set .targetCoordinates (.points corners)
  if snapshot.autoZoom && snapshot.locked then
    bundle := bundle.set .autoZoomPaddingRegion autoZoomPaddingRegion
  return bundle

end EyesFree
