import EyesFree.Proofs.Bundle
import EyesFree.Proofs.Submission

namespace EyesFree

/-! Which keys a client finds in a result, seen from the keys that the capabilities announce
for results. The report of the camera is cut down to them; what the parameters of the
request give is laid over it as it is. -/

namespace Snapshot

variable {snapshot : Snapshot}

def Derives (snapshot : Snapshot) : ResultKey → Prop
  | .autoZoom => snapshot.get? .autoZoom = some (.bool true)
  | .maxPaddingZoomFactor =>
      snapshot.get? .autoZoom = some (.bool true) ∧ snapshot.contains .maxPaddingZoomFactor
  | .paddingZoomFactor => snapshot.contains .paddingZoomFactor
  | .translateViewport => snapshot.contains .translateViewport
  | .rotateViewport => snapshot.contains .rotateViewport
  | .autoZoomPaddingRegion => snapshot.AsksFor .autoZoomPaddingRegion
  | .paddingRegion => snapshot.AsksFor .paddingRegion
  | .targetCoordinates => snapshot.AsksFor .targetCoordinates
  | _ => False

private theorem overlay?_isSome_iff_derives (corners : List Point) (key : ResultKey) :
    (snapshot.overlay? corners key).isSome ↔ snapshot.Derives key := by
  cases key with
  | autoZoomPaddingRegion => exact overlay?_isSome_iff corners (by decide)
  | paddingRegion => exact overlay?_isSome_iff corners (by decide)
  | targetCoordinates => exact overlay?_isSome_iff corners (by decide)
  | autoZoom => simp [overlay?, Derives, autoZoom_iff]
  | maxPaddingZoomFactor =>
      rw [overlay?, Derives, contains, ← autoZoom_iff]
      cases snapshot.autoZoom <;> simp
  | paddingZoomFactor | translateViewport | rotateViewport => rfl
  | _ => simp [overlay?, Derives]

end Snapshot

def derivedKeys : List ResultKey :=
  [.autoZoom, .maxPaddingZoomFactor, .paddingZoomFactor, .translateViewport, .rotateViewport] ++
    compositeKeys

private theorem Snapshot.Derives.mem_derivedKeys {snapshot : Snapshot} {key : ResultKey}
    (derived : snapshot.Derives key) : key ∈ derivedKeys := by
  cases key <;> first | decide | exact derived.elim

namespace Capabilities

variable {capabilities : Capabilities} {snapshot : Snapshot} {result bundle : CaptureResult}

private theorem contains_of_synthesize
    (synthesized : capabilities.synthesize snapshot result = .ok bundle) (key : ResultKey) :
    bundle.contains key ↔
      snapshot.Derives key ∨ capabilities.resultKeys.contains key ∧ result.contains key := by
  obtain ⟨corners, target⟩ := exists_target_of_synthesize synthesized
  rw [← Snapshot.overlay?_isSome_iff_derives corners key]
  exact contains_of_synthesize_of_target target synthesized key

private theorem keys_published_iff
    (synthesized : capabilities.synthesize snapshot result = .ok bundle) :
    (∀ key, bundle.contains key → capabilities.resultKeys.contains key) ↔
      ∀ key, snapshot.Derives key → capabilities.resultKeys.contains key := by
  have contained := contains_of_synthesize synthesized
  constructor
  · intro published key derived
    exact published key ((contained key).mpr (.inl derived))
  · intro published key held
    rcases (contained key).mp held with derived | ⟨reported, _⟩
    · exact published key derived
    · exact reported

/-- The extension publishes every key that parameters can give a value, and so
every key of its results. -/
theorem keys_published_of_eyesFree {activeArray : Rect}
    (synthesized : (eyesFree activeArray).synthesize snapshot result = .ok bundle) :
    ∀ key, bundle.contains key → (eyesFree activeArray).resultKeys.contains key := by
  rw [keys_published_iff synthesized]
  intro key derived
  have member := derived.mem_derivedKeys
  simp only [derivedKeys, compositeKeys, List.cons_append, List.nil_append, List.mem_cons,
    List.not_mem_nil, or_false] at member
  rcases member with rfl | rfl | rfl | rfl | rfl | rfl | rfl | rfl <;> rfl

end Capabilities

/-! ## Delivered results -/

/-- The result of a completed event holds, whatever the capabilities publish,
exactly the keys that the parameters of the request give and the published keys
that the camera reported. So all its keys are published if and only if those are
that the parameters give. -/
theorem completed_keys {capabilities : Capabilities} {subscription : Subscription}
    {request : Request} {report : Report} {events : List CaptureEvent}
    (told : subscription.events capabilities request report = .ok events)
    {sequence : SequenceId} {timestamp : Timestamp} {bundle : CaptureResult}
    (completed : .completed sequence timestamp bundle ∈ events) :
    (∃ result, report = .completed result ∧ ∀ key, bundle.contains key ↔
      request.parameters.Derives key ∨
        capabilities.resultKeys.contains key ∧ result.contains key) ∧
    ((∀ key, bundle.contains key → capabilities.resultKeys.contains key) ↔
      ∀ key, request.parameters.Derives key → capabilities.resultKeys.contains key) := by
  obtain ⟨result, reported, _, synthesized⟩ := Subscription.completed_of_mem_events told completed
  exact ⟨⟨result, reported, Capabilities.contains_of_synthesize synthesized⟩,
    Capabilities.keys_published_iff synthesized⟩

def Capabilities.reticent : Capabilities :=
  ⟨⟨fun _ => true⟩, ⟨fun _ => false⟩, .ofExtent 4000 3000⟩

def zoomedStill : Request := .of .multiFrame ⟨[(.paddingZoomFactor, .float ⟨0x3FC00000⟩)]⟩

/-- The zoom of the still is delivered, a key that the extension does not publish, and
nothing else is: the camera's report has no published key. -/
theorem completed_keys_reticent :
    ∃ bundle, (Subscription.mk ⟨2⟩ .multiFrame "still").events .reticent zoomedStill
        (.completed (sampleResult 1)) = .ok [.completed ⟨2⟩ 1 bundle] ∧
      (∀ key, bundle.contains key ↔ zoomedStill.parameters.Derives key) ∧
      ¬∀ key, bundle.contains key → Capabilities.reticent.resultKeys.contains key := by
  have told : (Subscription.mk ⟨2⟩ .multiFrame "still").events .reticent zoomedStill
      (.completed (sampleResult 1)) = .ok [.completed ⟨2⟩ 1 _] := rfl
  obtain ⟨⟨result, _, contained⟩, published⟩ := completed_keys told (List.mem_singleton_self _)
  refine ⟨_, told, fun key => ?_, fun all => ?_⟩
  · rw [contained, or_iff_left_iff_imp]
    rintro ⟨⟨⟩, _⟩
  · exact Bool.false_ne_true (published.mp all .paddingZoomFactor rfl)

/-- A result is delivered with a key that is not published. -/
theorem completed_unpublished_zoom :
    ∃ bundle, (Subscription.mk ⟨2⟩ .multiFrame "still").events .reticent zoomedStill
        (.completed (sampleResult 1)) = .ok [.completed ⟨2⟩ 1 bundle] ∧
      bundle.contains .paddingZoomFactor ∧
      ¬Capabilities.reticent.resultKeys.contains .paddingZoomFactor :=
  ⟨_, rfl, rfl, Bool.false_ne_true⟩

end EyesFree
