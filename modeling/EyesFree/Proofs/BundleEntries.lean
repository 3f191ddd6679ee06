import EyesFree.Proofs.Bundle
import EyesFree.Proofs.Target

namespace EyesFree

/-! The entry of a result under every key, told from the listed parameters and the camera's
report alone: which parameters give an entry, that what they give replaces what was
reported, and that nothing else of a request is seen in its results. -/

/-! ## Listed parameters -/

namespace Snapshot

variable {snapshot : Snapshot} {target : List Point}

/-- The first value that is listed for a key. -/
def Lists (snapshot : Snapshot) (key : RequestKey) (value : Value) : Prop :=
  ∃ before after, snapshot.entries = before ++ (key, value) :: after ∧
    ∀ entry ∈ before, entry.1 ≠ key

private theorem get?_eq_some_iff {key : RequestKey} {value : Value} :
    snapshot.get? key = some value ↔ snapshot.Lists key value := by
  rw [get?, Option.map_eq_some_iff]
  constructor
  · rintro ⟨⟨other, _⟩, found, rfl⟩
    obtain ⟨same, before, after, listed, earlier⟩ := List.find?_eq_some_iff_append.mp found
    obtain rfl : other = key := by simpa using same
    exact ⟨before, after, listed, by simpa using earlier⟩
  · rintro ⟨before, after, listed, earlier⟩
    refine ⟨(key, value), List.find?_eq_some_iff_append.mpr ?_, rfl⟩
    exact ⟨decide_eq_true rfl, before, after, listed, by simpa using earlier⟩

private theorem autoZoom_iff_lists :
    snapshot.autoZoom = true ↔ snapshot.Lists .autoZoom (.bool true) :=
  autoZoom_iff.trans get?_eq_some_iff

private theorem locked_iff_lists :
    snapshot.locked = true ↔ snapshot.Lists .stabilizationMode (.int 2) :=
  locked_iff.trans get?_eq_some_iff

/-- The entries that listed parameters give to a result, with the
target on the active array. -/
inductive Gives (snapshot : Snapshot) (target : List Point) : ResultKey → Value → Prop
  | autoZoom (automatic : snapshot.Lists .autoZoom (.bool true)) :
      Gives snapshot target .autoZoom (.bool true)
  | maxPaddingZoomFactor {value : Value} (automatic : snapshot.Lists .autoZoom (.bool true))
      (listed : snapshot.Lists .maxPaddingZoomFactor value) :
      Gives snapshot target .maxPaddingZoomFactor value
  | paddingZoomFactor {value : Value} (listed : snapshot.Lists .paddingZoomFactor value) :
      Gives snapshot target .paddingZoomFactor value
  | translateViewport {value : Value} (listed : snapshot.Lists .translateViewport value) :
      Gives snapshot target .translateViewport value
  | rotateViewport {value : Value} (listed : snapshot.Lists .rotateViewport value) :
      Gives snapshot target .rotateViewport value
  | paddingRegion (stable : snapshot.Lists .stabilizationMode (.int 2)) :
      Gives snapshot target .paddingRegion (.intArray [5, 5, 5, 5])
  | targetCoordinates (stable : snapshot.Lists .stabilizationMode (.int 2)) :
      Gives snapshot target .targetCoordinates (.points target)
  | autoZoomPaddingRegion (automatic : snapshot.Lists .autoZoom (.bool true))
      (stable : snapshot.Lists .stabilizationMode (.int 2)) :
      Gives snapshot target .autoZoomPaddingRegion (.intArray [3, 3, 3, 3])

private theorem overlay?_of_gives {key : ResultKey} {value : Value}
    (gives : snapshot.Gives target key value) : snapshot.overlay? target key = some value := by
  cases gives with
  | autoZoom automatic => exact if_pos (autoZoom_iff_lists.mpr automatic)
  | maxPaddingZoomFactor automatic listed =>
      exact (if_pos (autoZoom_iff_lists.mpr automatic)).trans (get?_eq_some_iff.mpr listed)
  | paddingZoomFactor listed => exact get?_eq_some_iff.mpr listed
  | translateViewport listed => exact get?_eq_some_iff.mpr listed
  | rotateViewport listed => exact get?_eq_some_iff.mpr listed
  | paddingRegion stable => exact if_pos (locked_iff_lists.mpr stable)
  | targetCoordinates stable => exact if_pos (locked_iff_lists.mpr stable)
  | autoZoomPaddingRegion automatic stable =>
      rw [overlay?, autoZoom_iff_lists.mpr automatic, locked_iff_lists.mpr stable]
      rfl

private theorem gives_of_overlay? {key : ResultKey} {value : Value}
    (overlaid : snapshot.overlay? target key = some value) : snapshot.Gives target key value := by
  cases key with
  | autoZoom =>
      obtain ⟨automatic, ⟨⟩⟩ := Option.ite_none_right_eq_some.mp overlaid
      exact .autoZoom (autoZoom_iff_lists.mp automatic)
  | maxPaddingZoomFactor =>
      obtain ⟨automatic, listed⟩ := Option.ite_none_right_eq_some.mp overlaid
      exact .maxPaddingZoomFactor (autoZoom_iff_lists.mp automatic) (get?_eq_some_iff.mp listed)
  | paddingZoomFactor => exact .paddingZoomFactor (get?_eq_some_iff.mp overlaid)
  | translateViewport => exact .translateViewport (get?_eq_some_iff.mp overlaid)
  | rotateViewport => exact .rotateViewport (get?_eq_some_iff.mp overlaid)
  | paddingRegion =>
      obtain ⟨stable, ⟨⟩⟩ := Option.ite_none_right_eq_some.mp overlaid
      exact .paddingRegion (locked_iff_lists.mp stable)
  | targetCoordinates =>
      obtain ⟨stable, ⟨⟩⟩ := Option.ite_none_right_eq_some.mp overlaid
      exact .targetCoordinates (locked_iff_lists.mp stable)
  | autoZoomPaddingRegion =>
      obtain ⟨both, ⟨⟩⟩ := Option.ite_none_right_eq_some.mp overlaid
      obtain ⟨automatic, stable⟩ := Bool.and_eq_true_iff.mp both
      exact .autoZoomPaddingRegion (autoZoom_iff_lists.mp automatic) (locked_iff_lists.mp stable)
  | _ => cases overlaid

private theorem overlay?_eq_some_iff {key : ResultKey} {value : Value} :
    snapshot.overlay? target key = some value ↔ snapshot.Gives target key value :=
  ⟨gives_of_overlay?, overlay?_of_gives⟩

private theorem overlay?_eq_none_iff {key : ResultKey} :
    snapshot.overlay? target key = none ↔ ∀ value, ¬snapshot.Gives target key value := by
  simp only [Option.eq_none_iff_forall_ne_some, ne_eq, overlay?_eq_some_iff]

end Snapshot

/-! ## Results -/

def decisiveKeys : List RequestKey :=
  [.autoZoom, .maxPaddingZoomFactor, .paddingZoomFactor, .translateViewport, .rotateViewport,
    .stabilizationMode]

private theorem Capabilities.synthesize_congr {capabilities : Capabilities}
    {snapshot other : Snapshot}
    (agree : ∀ key ∈ decisiveKeys, other.get? key = snapshot.get? key) (result : CaptureResult) :
    capabilities.synthesize other result = capabilities.synthesize snapshot result := by
  have automatic : other.autoZoom = snapshot.autoZoom := by
    rw [Snapshot.autoZoom, agree .autoZoom (by decide)]
    rfl
  have stable : other.locked = snapshot.locked := by
    rw [Snapshot.locked, Snapshot.stabilization?, agree .stabilizationMode (by decide)]
    rfl
  simp only [synthesize, echoedKeys, List.forIn_cons, List.forIn_nil, automatic, stable,
    agree .maxPaddingZoomFactor (by decide), agree .paddingZoomFactor (by decide),
    agree .translateViewport (by decide), agree .rotateViewport (by decide)]

/-- Every entry of a result is given by the parameters, or it was reported under a
published key for which they give nothing. Of the parameters only the first values of
the decisive keys count. -/
theorem result_entries {capabilities : Capabilities}
    (extent : capabilities.activeArray.HasExtent) (snapshot : Snapshot) (result : CaptureResult) :
    let array := capabilities.activeArray
    let x := (array.right.toInt - array.left.toInt).tdiv 2
    let y := (array.bottom.toInt - array.top.toInt).tdiv 2
    let target : List Point := [.ofPixels (x - 5) (y - 5), .ofPixels (x + 5) (y - 5),
      .ofPixels (x + 5) (y + 5), .ofPixels (x - 5) (y + 5)]
    array.targetCoordinates = .ok target ∧
      ∃ bundle, capabilities.synthesize snapshot result = .ok bundle ∧
        (∀ key value, bundle.get key = some value ↔
          snapshot.Gives target key value ∨
            (∀ given, ¬snapshot.Gives target key given) ∧
              capabilities.resultKeys.contains key ∧ result.get key = some value) ∧
        ∀ other : Snapshot, (∀ key ∈ decisiveKeys, other.get? key = snapshot.get? key) →
          capabilities.synthesize other result = .ok bundle := by
  intro array x y target
  have targeted : array.targetCoordinates = .ok target := extent.targetCoordinates_eq
  obtain ⟨bundle, synthesized⟩ := capabilities.synthesize_eq_ok extent snapshot result
  refine ⟨targeted, bundle, synthesized, ?_, ?_⟩
  · intro key value
    rw [capabilities.get_of_synthesize_of_target (fun _ => targeted) synthesized key,
      Option.or_eq_some_iff, Snapshot.overlay?_eq_some_iff, Snapshot.overlay?_eq_none_iff,
      Metadata.get_restrict, Option.ite_none_right_eq_some]
  · intro other agree
    rw [Capabilities.synthesize_congr agree result, synthesized]

/-- A client that asks for auto-zoom and for a locked view and takes both
back in the same list. -/
def undecided : Snapshot :=
  ⟨[(.autoZoom, .bool true), (.paddingZoomFactor, .int 7), (.stabilizationMode, .int 2),
    (.autoZoom, .bool false), (.stabilizationMode, .int 0)]⟩

def paddedReport : CaptureResult :=
  .ofEntries [(.sensorTimestamp, .long 1), (.autoZoom, .bool false), (.paddingZoomFactor, .int 1),
    (.paddingRegion, .intArray [1, 1, 1, 1]), (.maxPaddingZoomFactor, .int 9)]

theorem result_entries_undecided :
    ∃ bundle, (Capabilities.eyesFree (.ofExtent 4000 3000)).synthesize undecided paddedReport =
        .ok bundle ∧
      bundle.get .autoZoom = some (.bool true) ∧
      bundle.get .paddingZoomFactor = some (.int 7) ∧
      bundle.get .paddingRegion = some (.intArray [5, 5, 5, 5]) ∧
      bundle.get .autoZoomPaddingRegion = some (.intArray [3, 3, 3, 3]) ∧
      bundle.get .targetCoordinates = some (.points [.ofPixels 1995 1495, .ofPixels 2005 1495,
        .ofPixels 2005 1505, .ofPixels 1995 1505]) ∧
      bundle.get .maxPaddingZoomFactor = some (.int 9) ∧
      bundle.get .sensorTimestamp = none := by
  have extent : (Capabilities.eyesFree (.ofExtent 4000 3000)).activeArray.HasExtent :=
    Rect.hasExtent_ofExtent 4000 3000
  obtain ⟨_, bundle, synthesized, entries, _⟩ := result_entries extent undecided paddedReport
  have automatic : undecided.Lists .autoZoom (.bool true) := ⟨[], _, rfl, by simp⟩
  have zoomed : undecided.Lists .paddingZoomFactor (.int 7) := ⟨[_], _, rfl, by simp⟩
  have locked : undecided.Lists .stabilizationMode (.int 2) := ⟨[_, _], _, rfl, by simp⟩
  have unasked (target : List Point) (value : Value) :
      ¬undecided.Gives target .maxPaddingZoomFactor value := by
    rintro ⟨⟩
    next listed => cases Snapshot.get?_eq_some_iff.mpr listed
  refine ⟨bundle, synthesized, (entries _ _).mpr (.inl (.autoZoom automatic)),
    (entries _ _).mpr (.inl (.paddingZoomFactor zoomed)),
    (entries _ _).mpr (.inl (.paddingRegion locked)),
    (entries _ _).mpr (.inl (.autoZoomPaddingRegion automatic locked)),
    (entries _ _).mpr (.inl (.targetCoordinates locked)),
    (entries _ _).mpr (.inr ⟨unasked _, rfl, rfl⟩), ?_⟩
  refine Option.eq_none_iff_forall_ne_some.mpr fun value held => ?_
  rcases (entries _ _).mp held with ⟨⟨⟩⟩ | ⟨_, published, _⟩
  cases published

end EyesFree
