import EyesFree.Proofs.Passage

namespace EyesFree

/-! What a step of a session can do to its preview on the side of the camera: to the
internal frame source and the relay that takes frames from it. -/

/-- The part of a session and its surfaces that preview frames go through. -/
structure Preview where
  state : SessionState
  /-- The internal frame source. -/
  source : Option Nat
  /-- The surface that the client asked preview frames for. -/
  target : Option SurfaceId
  relay : Option (Relay Frame)
  sources : List FrameSource

def World.preview (world : ReplayWorld) : Preview :=
  ⟨world.session.state, world.session.source, world.session.preview.bind (·.surface),
    world.session.relay, world.surfaces.sources⟩

def Preview.attached (source : Nat) (preview : Preview) : Preview :=
  { preview with
    state := .active
    relay := some {}
    sources := preview.sources.modify source (FrameSource.setListened true) }

def Passage.preview (passage : Passage) : Preview :=
  ⟨passage.state, passage.source, passage.target, passage.relay, passage.sources⟩

private theorem World.preview_eq_of_passage_eq {world : ReplayWorld} {passage : Passage}
    (same : world.passage = passage) : world.preview = passage.preview :=
  congrArg Passage.preview same

/-! ## Moves -/

inductive PreviewMove (world after : ReplayWorld) : Prop
  /-- The preview is not concerned. -/
  | stay (same : after.preview = world.preview)
  /-- The outputs are described, and no preview is asked for. -/
  | configure (uninitialized : world.session.state = .uninitialized)
      (same : after.preview = { world.preview with state := .configuring })
  /-- The outputs are described, and there is a source for the preview. -/
  | prepare {surface size format maxImages target}
      (uninitialized : world.session.state = .uninitialized)
      (same : after.preview = { world.preview with
        state := .configuring
        source := some world.surfaces.sources.length
        target := some target
        sources := world.surfaces.sources ++ [FrameSource.of surface size format maxImages] })
  | attach {source} (configuring : world.session.state = .configuring)
      (chosen : world.session.source = some source)
      (same : after.preview = world.preview.attached source)
  | activate (configuring : world.session.state = .configuring)
      (absent : world.preview.target = none ∨ world.session.source = none)
      (same : after.preview = { world.preview with state := .active })
  | signal (active : world.session.state = .active)
      (same : after.preview = { world.preview with state := .ending })
  /-- Everything is released, after the captures were ended. -/
  | release {ended : ReplayWorld} (same : ended.preview = world.preview)
      (released : after = ended.released)
  | produce {source timestamp} (same : after = (world.produce source timestamp).2)
  | forward (same : after = world.forwardFrame)

theorem World.startSession_preview (world : ReplayWorld) :
    let answered := world.startSession
    (∃ error, answered.1 = .error error ∧ answered.2.preview = world.preview) ∨
      answered.1 = .ok () ∧ world.session.state = .configuring ∧
        ((∃ source, world.session.source = some source ∧
            answered.2.preview = world.preview.attached source) ∨
          (world.preview.target = none ∨ world.session.source = none) ∧
            answered.2.preview = { world.preview with state := .active }) := by
  rcases startSession_passage world with
    ⟨error, failed, same⟩ |
      ⟨started, configuring, ⟨source, _, chosen, _, same⟩ | ⟨absent, same⟩⟩
  · exact .inl ⟨error, failed, preview_eq_of_passage_eq same⟩
  · exact .inr ⟨started, configuring, .inl ⟨source, chosen, preview_eq_of_passage_eq same⟩⟩
  · exact .inr ⟨started, configuring, .inr ⟨absent, preview_eq_of_passage_eq same⟩⟩

private theorem PassageMove.preview {world after : ReplayWorld} {step : SessionStep}
    (move : PassageMove world step after) : PreviewMove world after := by
  cases move with
  | stay quiet same => exact .stay (World.preview_eq_of_passage_eq same)
  | abandon output same => exact .stay (World.preview_eq_of_passage_eq same)
  | configure quiet uninitialized same =>
      exact .configure uninitialized (World.preview_eq_of_passage_eq same)
  | prepare quiet uninitialized same =>
      exact .prepare uninitialized (World.preview_eq_of_passage_eq same)
  | attach configuring chosen asked same =>
      exact .attach configuring chosen (World.preview_eq_of_passage_eq same)
  | activate configuring absent same =>
      exact .activate configuring absent (World.preview_eq_of_passage_eq same)
  | signal active same => exact .signal active (World.preview_eq_of_passage_eq same)
  | release living same => exact .release (World.preview_eq_of_passage_eq same) rfl
  | produce source timestamp => exact .produce rfl
  | forward => exact .forward rfl

theorem SessionStep.previewMove (step : SessionStep) (world : ReplayWorld) :
    PreviewMove world (step.perform world).state :=
  (step.passageMove world).preview

end EyesFree
