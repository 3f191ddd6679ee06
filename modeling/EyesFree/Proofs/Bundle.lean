import EyesFree.Proofs.Extent

namespace EyesFree

/-! What a result holds under each key: what the parameters of the request lay over the
report, and under it the published part of the report. -/

/-! ## Parameters that results depend on -/

private theorem StabilizationMode.ofValue?_eq_some_iff {value : Value}
    {mode : StabilizationMode} :
    ofValue? value = some mode ↔ value = mode.toValue := by
  constructor
  · intro read
    cases value with
    | int number =>
        simp only [ofValue?, Value.asInt?, bind, Option.bind_some] at read
        split at read
        next off =>
          cases read
          rw [off, toValue]
        next =>
          split at read
          next gimbal =>
            cases read
            rw [gimbal, toValue]
          next =>
            split at read
            next locked =>
              cases read
              rw [locked, toValue]
            next => cases read
    | _ => cases read
  · rintro rfl
    cases mode <;> rfl

namespace Snapshot

variable {snapshot : Snapshot}

theorem autoZoom_iff :
    snapshot.autoZoom = true ↔ snapshot.get? .autoZoom = some (.bool true) := by
  unfold autoZoom
  cases snapshot.get? .autoZoom with
  | none => simp
  | some value => cases value <;> simp [Value.asBool?]

theorem locked_iff :
    snapshot.locked = true ↔
      snapshot.get? .stabilizationMode = some StabilizationMode.locked.toValue := by
  unfold locked stabilization?
  cases snapshot.get? .stabilizationMode with
  | none => simp
  | some value => simp [StabilizationMode.ofValue?_eq_some_iff]

/-- What the parameters of a request lay over a report, given the
target on the active array. -/
def overlay? (snapshot : Snapshot) (corners : List Point) : ResultKey → Option Value
  | .autoZoom => if snapshot.autoZoom then some (.bool true) else none
  | .maxPaddingZoomFactor =>
      if snapshot.autoZoom then snapshot.get? .maxPaddingZoomFactor else none
  | .paddingZoomFactor => snapshot.get? .paddingZoomFactor
  | .translateViewport => snapshot.get? .translateViewport
  | .rotateViewport => snapshot.get? .rotateViewport
  | .paddingRegion => if snapshot.locked then some EyesFree.paddingRegion else none
  | .targetCoordinates => if snapshot.locked then some (.points corners) else none
  | .autoZoomPaddingRegion =>
      if snapshot.autoZoom && snapshot.locked then some EyesFree.autoZoomPaddingRegion else none
  | _ => none

end Snapshot

namespace Capabilities

variable {capabilities : Capabilities} {corners : List Point} {snapshot : Snapshot}
  {result bundle : CaptureResult}

/-- A value that the parameters do not lay over comes from the published part of the report.
The target is of no concern unless the image is locked. -/
theorem get_of_synthesize_of_target
    (target : snapshot.locked → capabilities.activeArray.targetCoordinates = .ok corners)
    (synthesized : capabilities.synthesize snapshot result = .ok bundle) (key : ResultKey) :
    bundle.get key =
      (snapshot.overlay? corners key).or ((result.restrict capabilities.resultKeys).get key) := by
  simp only [synthesize, echoedKeys] at synthesized
  cases automatic : snapshot.autoZoom <;> cases stable : snapshot.locked <;>
    simp only [automatic, stable, target, ↓reduceIte] at synthesized <;> cases synthesized <;>
    cases key <;> simp [Metadata.get_setSome, Snapshot.overlay?, automatic, stable]

theorem contains_of_synthesize_of_target
    (target : snapshot.locked → capabilities.activeArray.targetCoordinates = .ok corners)
    (synthesized : capabilities.synthesize snapshot result = .ok bundle) (key : ResultKey) :
    bundle.contains key ↔ (snapshot.overlay? corners key).isSome ∨
      capabilities.resultKeys.contains key ∧ result.contains key := by
  rw [Metadata.contains, get_of_synthesize_of_target target synthesized, Option.isSome_or,
    Bool.or_eq_true, Metadata.get_restrict]
  cases capabilities.resultKeys.contains key <;> simp [Metadata.contains]

theorem exists_target_of_synthesize
    (synthesized : capabilities.synthesize snapshot result = .ok bundle) :
    ∃ corners, snapshot.locked → capabilities.activeArray.targetCoordinates = .ok corners := by
  cases target : capabilities.activeArray.targetCoordinates with
  | ok corners => exact ⟨corners, fun _ => rfl⟩
  | error fault =>
      refine ⟨[], fun stable => ?_⟩
      simp only [synthesize, echoedKeys, target, stable] at synthesized
      cases automatic : snapshot.autoZoom <;> rw [automatic] at synthesized <;> cases synthesized

end Capabilities

/-! ## Composite keys -/

def compositeKeys : List ResultKey := [.autoZoomPaddingRegion, .paddingRegion, .targetCoordinates]

/-- The combination of parameters that a composite key stands for. -/
def Snapshot.AsksFor (snapshot : Snapshot) : ResultKey → Prop
  | .autoZoomPaddingRegion =>
      snapshot.get? .autoZoom = some (.bool true) ∧
        snapshot.get? .stabilizationMode = some StabilizationMode.locked.toValue
  | .paddingRegion =>
      snapshot.get? .stabilizationMode = some StabilizationMode.locked.toValue
  | .targetCoordinates =>
      snapshot.get? .stabilizationMode = some StabilizationMode.locked.toValue
  | _ => False

theorem Snapshot.overlay?_isSome_iff {snapshot : Snapshot} (corners : List Point)
    {key : ResultKey} (composite : key ∈ compositeKeys) :
    (snapshot.overlay? corners key).isSome ↔ snapshot.AsksFor key := by
  simp only [compositeKeys, List.mem_cons, List.not_mem_nil, or_false] at composite
  rcases composite with rfl | rfl | rfl
  · simp [overlay?, AsksFor, autoZoom_iff, locked_iff]
  · simp [overlay?, AsksFor, locked_iff]
  · simp [overlay?, AsksFor, locked_iff]

/-- A result holds a composite key if its combination of parameters was asked for, or if the
key is published and the camera reported it. So the key says that its combination was asked
for unless the camera reports a published key that was not. -/
theorem contains_composite_iff {capabilities : Capabilities}
    (extent : capabilities.activeArray.HasExtent) (snapshot : Snapshot) (result : CaptureResult) :
    ∃ bundle, capabilities.synthesize snapshot result = .ok bundle ∧
      ∀ key ∈ compositeKeys,
        (bundle.contains key ↔
          snapshot.AsksFor key ∨ capabilities.resultKeys.contains key ∧ result.contains key) ∧
        ((bundle.contains key ↔ snapshot.AsksFor key) ↔
          (capabilities.resultKeys.contains key → result.contains key → snapshot.AsksFor key)) := by
  obtain ⟨corners, target⟩ := extent.targetCoordinates
  obtain ⟨bundle, synthesized⟩ := capabilities.synthesize_eq_ok extent snapshot result
  refine ⟨bundle, synthesized, ?_⟩
  intro key composite
  have contained : bundle.contains key ↔
      snapshot.AsksFor key ∨ capabilities.resultKeys.contains key ∧ result.contains key := by
    rw [← Snapshot.overlay?_isSome_iff corners composite]
    exact capabilities.contains_of_synthesize_of_target (fun _ => target) synthesized key
  refine ⟨contained, ?_⟩
  rw [contained, or_iff_left_iff_imp, and_imp]

def compositeReport : CaptureResult :=
  .ofEntries (compositeKeys.map fun key => (key, .intArray [1, 1, 1, 1]))

theorem contains_composite_iff_locked :
    ∃ bundle, (Capabilities.eyesFree (.ofExtent 4000 3000)).synthesize
        ⟨[(.stabilizationMode, .int 2)]⟩ compositeReport = .ok bundle ∧
      (bundle.contains .paddingRegion ↔
        Snapshot.AsksFor ⟨[(.stabilizationMode, .int 2)]⟩ .paddingRegion) ∧
      ¬(bundle.contains .autoZoomPaddingRegion ↔
        Snapshot.AsksFor ⟨[(.stabilizationMode, .int 2)]⟩ .autoZoomPaddingRegion) := by
  have extent : (Capabilities.eyesFree (.ofExtent 4000 3000)).activeArray.HasExtent :=
    Rect.hasExtent_ofExtent 4000 3000
  obtain ⟨bundle, synthesized, composite⟩ :=
    contains_composite_iff extent ⟨[(.stabilizationMode, .int 2)]⟩ compositeReport
  refine ⟨bundle, synthesized, ?_, ?_⟩
  · exact (composite .paddingRegion (by decide)).2.mpr fun _ _ => rfl
  · rw [(composite .autoZoomPaddingRegion (by decide)).2]
    intro asked
    exact absurd (asked rfl rfl).1 (by decide)

/-- Reported composite keys are delivered although nothing was asked for. -/
theorem contains_composite_of_nothing_asked :
    ∃ bundle,
      (Capabilities.eyesFree (.ofExtent 4000 3000)).synthesize ⟨[]⟩ compositeReport = .ok bundle ∧
        ∀ key ∈ compositeKeys, bundle.contains key ∧ ¬Snapshot.AsksFor ⟨[]⟩ key := by
  refine ⟨_, rfl, ?_⟩
  intro key composite
  simp only [compositeKeys, List.mem_cons, List.not_mem_nil, or_false] at composite
  rcases composite with rfl | rfl | rfl <;> exact ⟨rfl, by simp [Snapshot.AsksFor, Snapshot.get?]⟩

end EyesFree
