import EyesFree.Session.Extender

namespace EyesFree

/-! Resolutions that are reported for requested formats. Of the configurations that a
camera lists for a format only the first is reported, so that a size is lost if it is
listed in a later one alone. -/

def Listed (streams : List StreamConfiguration) (format : ImageFormat) (size : Size) : Prop :=
  ∃ stream ∈ streams, stream.format = format ∧ size ∈ stream.sizes

namespace CameraCharacteristics

variable {camera : CameraCharacteristics} {formats : List ImageFormat} {format : ImageFormat}
  {stream first : StreamConfiguration}

def Supports (camera : CameraCharacteristics) (format : ImageFormat) : Prop :=
  ∃ stream ∈ camera.streams, stream.format = format

instance (camera : CameraCharacteristics) (format : ImageFormat) :
    Decidable (camera.Supports format) :=
  inferInstanceAs (Decidable (∃ stream ∈ camera.streams, stream.format = format))

def IsFirst (camera : CameraCharacteristics) (stream : StreamConfiguration) : Prop :=
  ∃ before after, camera.streams = before ++ stream :: after ∧
    ∀ earlier ∈ before, earlier.format ≠ stream.format

/-- No size of the format is listed in later configurations alone. -/
def FirstHasAll (camera : CameraCharacteristics) (format : ImageFormat) : Prop :=
  ∀ first, camera.IsFirst first → first.format = format →
    ∀ size, Listed camera.streams format size → size ∈ first.sizes

/-- A report without loss: the formats as they were requested, but for those that
the camera does not list, and under each of them the sizes that the camera lists
under it, and no others. -/
structure Complete (camera : CameraCharacteristics) (formats : List ImageFormat)
    (report : List StreamConfiguration) : Prop where
  formats_eq : report.map (·.format) = formats.filter (camera.Supports ·)
  listed_iff : ∀ format ∈ formats, ∀ size,
    Listed report format size ↔ Listed camera.streams format size

/-- A report of the first configurations: the formats are those of a report without loss,
and so are the sizes exactly if no size of a requested format is listed in later
configurations alone. -/
structure ReportsFirst (camera : CameraCharacteristics) (formats : List ImageFormat)
    (report : List StreamConfiguration) : Prop where
  formats_eq : report.map (·.format) = formats.filter (camera.Supports ·)
  isFirst : ∀ stream ∈ report, camera.IsFirst stream
  complete_iff : camera.Complete formats report ↔ ∀ format ∈ formats, camera.FirstHasAll format

private theorem IsFirst.mem (isFirst : camera.IsFirst stream) : stream ∈ camera.streams := by
  obtain ⟨before, after, streams, _⟩ := isFirst
  simp [streams]

private theorem find?_eq_some_iff :
    camera.streams.find? (·.format = format) = some stream ↔
      camera.IsFirst stream ∧ stream.format = format := by
  rw [List.find?_eq_some_iff_append, decide_eq_true_eq, and_comm]
  refine and_congr_left fun same => ?_
  subst same
  simp [IsFirst]

private theorem IsFirst.eq {other : StreamConfiguration} (isFirst : camera.IsFirst first)
    (otherFirst : camera.IsFirst other) (same : other.format = first.format) : other = first :=
  Option.some.inj ((find?_eq_some_iff.mpr ⟨otherFirst, same⟩).symm.trans
    (find?_eq_some_iff.mpr ⟨isFirst, rfl⟩))

private theorem exists_isFirst (supported : camera.Supports format) :
    ∃ first, camera.IsFirst first ∧ first.format = format := by
  obtain ⟨stream, listed, same⟩ := supported
  have found : (camera.streams.find? (·.format = format)).isSome := by
    rw [List.find?_isSome]
    exact ⟨stream, listed, decide_eq_true same⟩
  obtain ⟨first, isFirst⟩ := Option.isSome_iff_exists.mp found
  exact ⟨first, find?_eq_some_iff.mp isFirst⟩

private theorem mem_resolutions :
    stream ∈ camera.resolutions formats ↔ stream.format ∈ formats ∧ camera.IsFirst stream := by
  simp only [resolutions, List.mem_filterMap, find?_eq_some_iff]
  constructor
  · rintro ⟨format, requested, isFirst, rfl⟩
    exact ⟨requested, isFirst⟩
  · rintro ⟨requested, isFirst⟩
    exact ⟨_, requested, isFirst, rfl⟩

private theorem map_format_find? (camera : CameraCharacteristics) (format : ImageFormat) :
    (camera.streams.find? (·.format = format)).map (·.format) =
      if camera.Supports format then some format else none := by
  split
  next supported =>
    obtain ⟨first, isFirst, same⟩ := exists_isFirst supported
    rw [find?_eq_some_iff.mpr ⟨isFirst, same⟩, Option.map_some, same]
  next unsupported =>
    have missing : camera.streams.find? (·.format = format) = none :=
      List.find?_eq_none.mpr fun stream listed same =>
        unsupported ⟨stream, listed, of_decide_eq_true same⟩
    rw [missing, Option.map_none]

private theorem map_format_resolutions (camera : CameraCharacteristics)
    (formats : List ImageFormat) :
    (camera.resolutions formats).map (·.format) = formats.filter (camera.Supports ·) := by
  rw [resolutions, List.map_filterMap, ← List.filterMap_eq_filter]
  congr 1
  funext format
  rw [map_format_find?, Option.guard]
  simp

/-- What is reported under a format is what its first configuration has. -/
theorem listed_resolutions_iff (requested : format ∈ formats) (size : Size) :
    Listed (camera.resolutions formats) format size ↔
      ∃ first, camera.IsFirst first ∧ first.format = format ∧ size ∈ first.sizes := by
  simp only [Listed, mem_resolutions]
  constructor
  · rintro ⟨first, ⟨_, isFirst⟩, same, inside⟩
    exact ⟨first, isFirst, same, inside⟩
  · rintro ⟨first, isFirst, rfl, inside⟩
    exact ⟨first, ⟨requested, isFirst⟩, rfl, inside⟩

private theorem listed_resolutions_iff_listed (requested : format ∈ formats) :
    (∀ size, Listed (camera.resolutions formats) format size ↔
      Listed camera.streams format size) ↔ camera.FirstHasAll format := by
  simp only [listed_resolutions_iff requested]
  constructor
  · intro reported first isFirst same size listed
    obtain ⟨other, otherFirst, otherSame, inside⟩ := (reported size).mpr listed
    exact isFirst.eq otherFirst (otherSame.trans same.symm) ▸ inside
  · intro all size
    constructor
    · rintro ⟨first, isFirst, same, inside⟩
      exact ⟨first, isFirst.mem, same, inside⟩
    · rintro ⟨stream, listed, same, inside⟩
      obtain ⟨first, isFirst, firstSame⟩ := exists_isFirst ⟨stream, listed, same⟩
      exact ⟨first, isFirst, firstSame,
        all first isFirst firstSame size ⟨stream, listed, same, inside⟩⟩

private theorem reportsFirst_resolutions (camera : CameraCharacteristics)
    (formats : List ImageFormat) :
    camera.ReportsFirst formats (camera.resolutions formats) where
  formats_eq := camera.map_format_resolutions formats
  isFirst _ reported := (mem_resolutions.mp reported).2
  complete_iff := by
    constructor
    · intro complete format requested
      exact (listed_resolutions_iff_listed requested).mp (complete.listed_iff format requested)
    · intro all
      exact ⟨camera.map_format_resolutions formats, fun format requested =>
        (listed_resolutions_iff_listed requested).mpr (all format requested)⟩

end CameraCharacteristics

/-- Formats are reported as they were requested, but for those that the camera does not
list, each with the sizes of its first configuration; by the extender as well, for its own
formats. No size of a requested format is lost exactly if no later configuration of it has a
size that the first has not. -/
theorem resolutions_reported (camera : CameraCharacteristics) :
    (∀ formats, camera.ReportsFirst formats (camera.resolutions formats)) ∧
    ∀ (extender : EyesFreeExtender) (cameraId : String), ∃ ready preview capture,
      (Extender.eyesFree extender).initialized cameraId camera = .ok ready ∧
      ready.previewResolutions = .ok preview ∧
      ready.captureResolutions = .ok capture ∧
      camera.ReportsFirst Extender.previewFormats preview ∧
      camera.ReportsFirst Extender.captureFormats capture :=
  ⟨camera.reportsFirst_resolutions, fun _ _ => ⟨_, _, _, rfl, rfl, rfl,
    camera.reportsFirst_resolutions _, camera.reportsFirst_resolutions _⟩⟩

def twofoldCamera (first second : List Size) : CameraCharacteristics where
  activeArray := .ofExtent 4000 3000
  streams := [⟨.jpeg, [⟨4000, 3000⟩]⟩, ⟨.yuv420, first⟩, ⟨.yuv420, second⟩]

/-- Nothing is lost where the second list repeats the first. -/
theorem resolutions_reported_repeated :
    let camera := twofoldCamera [⟨1920, 1080⟩, ⟨640, 480⟩] [⟨640, 480⟩]
    camera.Complete [.yuv420, .jpegR, .jpeg] (camera.resolutions [.yuv420, .jpegR, .jpeg]) := by
  intro camera
  have all (format : ImageFormat) : camera.FirstHasAll format := by
    intro first isFirst same size listed
    have found := CameraCharacteristics.find?_eq_some_iff.mpr ⟨isFirst, same⟩
    cases format with
    | yuv420 | jpeg =>
        obtain rfl : _ = first := Option.some.inj found
        simpa [Listed, camera, twofoldCamera, or_assoc] using listed
    | implementationDefined | jpegR => cases found
  exact ((resolutions_reported camera).1 _).complete_iff.mpr fun format _ => all format

/-- A size that stands in the second list alone is lost. -/
theorem not_complete_twofoldCamera :
    let camera := twofoldCamera [⟨1920, 1080⟩] [⟨640, 480⟩]
    camera.resolutions [.yuv420] = [⟨.yuv420, [⟨1920, 1080⟩]⟩] ∧
      ¬camera.Complete [.yuv420] (camera.resolutions [.yuv420]) := by
  intro camera
  have reported : camera.resolutions [.yuv420] = [⟨.yuv420, [⟨1920, 1080⟩]⟩] := by decide
  refine ⟨reported, fun complete => ?_⟩
  have listed : Listed camera.streams .yuv420 ⟨640, 480⟩ := by simp [camera, twofoldCamera, Listed]
  have kept := (complete.listed_iff .yuv420 (by simp) ⟨640, 480⟩).mpr listed
  rw [reported] at kept
  simp [Listed] at kept

end EyesFree
