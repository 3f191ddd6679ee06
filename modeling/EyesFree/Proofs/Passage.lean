import EyesFree.Proofs.Captures
import EyesFree.Proofs.Run

namespace EyesFree

/-! What a step of a session can do to the way of its preview frames, said once:
to the internal frame source, the relay that takes frames from it, and the
output that they go to. -/

/-- The part of a session and its surfaces that preview frames pass through. -/
structure Passage where
  state : SessionState
  /-- The internal frame source. -/
  source : Option Nat
  /-- The surface that the client asked preview frames for. -/
  target : Option SurfaceId
  relay : Option (Relay Frame)
  slot : OutputSlot
  finalStats : RelayStats
  sources : List FrameSource
  outputs : List Output

def World.passage (world : ReplayWorld) : Passage :=
  ⟨world.session.state, world.session.source, world.session.preview.bind (·.surface),
    world.session.relay, world.session.slot, world.session.finalStats, world.surfaces.sources,
    world.surfaces.outputs⟩

def OutputSlot.closing (slot : OutputSlot) (outputs : List Output) : List Output :=
  match slot.installed with
  | none => outputs
  | some output => outputs.modify output fun output =>
      { output with closeCalls := output.closeCalls + 1 }

namespace Passage

def attached (source : Nat) (surface : SurfaceId) (passage : Passage) : Passage :=
  { passage with
    state := .active
    relay := some {}
    slot := ⟨some passage.outputs.length⟩
    sources := passage.sources.modify source (FrameSource.setListened true)
    outputs := passage.slot.closing (passage.outputs ++ [{ surface }]) }

def abandoned (output : Nat) (passage : Passage) : Passage :=
  { passage with
    outputs := passage.outputs.modify output fun output => { output with abandoned := true } }

end Passage

/-! ## Moves -/

/-- The frame that a step makes the camera produce: on which source, and
with which timestamp. -/
def SessionStep.production? : SessionStep → Option (Nat × Timestamp)
  | .surroundings (.produce source timestamp) => some (source, timestamp)
  | _ => none

/-- What a step can do to the passage. Most steps make the camera produce nothing. -/
inductive PassageMove (world : ReplayWorld) : SessionStep → ReplayWorld → Prop
  /-- The passage is not concerned. -/
  | stay {step : SessionStep} {after : ReplayWorld} (quiet : step.production? = none)
      (same : after.passage = world.passage) : PassageMove world step after
  | abandon {after : ReplayWorld} (output : Nat)
      (same : after.passage = world.passage.abandoned output) :
      PassageMove world (.surroundings (.abandon output)) after
  /-- The outputs are described, and no preview is asked for. -/
  | configure {step : SessionStep} {after : ReplayWorld} (quiet : step.production? = none)
      (uninitialized : world.session.state = .uninitialized)
      (same : after.passage = { world.passage with state := .configuring }) :
      PassageMove world step after
  /-- The outputs are described, and there is a source for the preview. -/
  | prepare {step : SessionStep} {after : ReplayWorld} {surface size format maxImages target}
      (quiet : step.production? = none)
      (uninitialized : world.session.state = .uninitialized)
      (same : after.passage = { world.passage with
        state := .configuring
        source := some world.surfaces.sources.length
        target := some target
        sources := world.surfaces.sources ++ [FrameSource.of surface size format maxImages] }) :
      PassageMove world step after
  | attach {after : ReplayWorld} {source surface}
      (configuring : world.session.state = .configuring)
      (chosen : world.session.source = some source)
      (asked : world.passage.target = some surface)
      (same : after.passage = world.passage.attached source surface) :
      PassageMove world (.operation .startSession) after
  | activate {after : ReplayWorld} (configuring : world.session.state = .configuring)
      (absent : world.passage.target = none ∨ world.session.source = none)
      (same : after.passage = { world.passage with state := .active }) :
      PassageMove world (.operation .startSession) after
  | signal {after : ReplayWorld} (active : world.session.state = .active)
      (same : after.passage = { world.passage with state := .ending }) :
      PassageMove world (.operation .endSession) after
  /-- Everything is released, after the captures were ended. -/
  | release {ended : ReplayWorld} (living : world.session.state ≠ .deinitialized)
      (same : ended.passage = world.passage) :
      PassageMove world (.operation .deinitSession) ended.released
  | produce (source : Nat) (timestamp : Timestamp) :
      PassageMove world (.surroundings (.produce source timestamp))
        (world.produce source timestamp).2
  | forward : PassageMove world (.surroundings .forward) world.forwardFrame

namespace World

variable {α : Type} {world : ReplayWorld}

/-! ## Captures do not concern the passage -/

theorem keeps_whileActive (operation : String)
    (inner : CaptureContext → Activity (Sequencer × ReplayChannel Subscription) Delivery
      (Except Error α)) : (whileActive operation inner).Keeps passage := by
  intro world
  rcases activeSequencer_cases world.session operation with ⟨sequencer, _, _, allowed⟩ | refused
  · rw [whileActive_eq allowed]
    rfl
  · rw [whileActive_eq_of_error refused]

theorem keeps_endCapture : (endCapture : Activity ReplayWorld Delivery Unit).Keeps passage := by
  refine Activity.Keeps.bind (fun _ => rfl) fun _ => ?_
  refine Activity.Keeps.bind (fun _ => rfl) fun world => ?_
  dsimp only
  cases world.session.sequencer with
  | none => exact fun _ => rfl
  | some sequencer =>
      refine Activity.Keeps.bind ?_ fun _ _ => rfl
      exact fun _ => rfl

theorem keeps_onChannel (inner : Hearing Subscription Delivery →
    Activity (ReplayChannel Subscription) Delivery α) : (onChannel inner).Keeps passage :=
  fun _ => rfl

/-! ## Setting up and ending -/

private theorem initSession_move (cameraId : String) (preview capture : OutputSurface)
    (world : ReplayWorld) :
    PassageMove world (.operation (.initSession cameraId preview capture))
      (world.initSession cameraId preview capture).2 := by
  rcases expectState_cases world.session "init_session" [.uninitialized] with
    ⟨member, allowed⟩ | ⟨_, refused⟩
  · have uninitialized : world.session.state = .uninitialized := by simpa using member
    simp only [initSession, allowed]
    split
    next present =>
      obtain ⟨target, asked⟩ := Option.isSome_iff_exists.mp present
      unfold Surfaces.createSource
      cases world.surfaces.failSource with
      | some error => exact .stay rfl rfl
      | none =>
          exact @PassageMove.prepare _ _ _ world.surfaces.next preview.size preview.format
            world.session.config.maxImages.toNat target rfl uninitialized
            (by simp [World.passage, asked, Surfaces.allocate])
    next => exact .configure rfl uninitialized rfl
  · simp only [initSession, refused]
    exact .stay rfl rfl

theorem sources_closeInstalled (slot : OutputSlot) (surfaces : Surfaces) :
    (slot.closeInstalled surfaces).sources = surfaces.sources := by
  unfold OutputSlot.closeInstalled
  split <;> rfl

theorem outputs_closeInstalled (slot : OutputSlot) (surfaces : Surfaces) :
    (slot.closeInstalled surfaces).outputs = slot.closing surfaces.outputs := by
  unfold OutputSlot.closeInstalled OutputSlot.closing
  cases slot.installed <;> rfl

theorem startSession_passage (world : ReplayWorld) :
    let answered := world.startSession
    (∃ error, answered.1 = .error error ∧ answered.2.passage = world.passage) ∨
      answered.1 = .ok () ∧ world.session.state = .configuring ∧
        ((∃ source surface, world.session.source = some source ∧
            world.passage.target = some surface ∧
            answered.2.passage = world.passage.attached source surface) ∨
          (world.passage.target = none ∨ world.session.source = none) ∧
            answered.2.passage = { world.passage with state := .active }) := by
  rcases expectState_cases world.session "on_capture_session_start" [.configuring] with
    ⟨member, allowed⟩ | ⟨_, refused⟩
  · have configuring : world.session.state = .configuring := by simpa using member
    simp only [startSession, allowed, startRelay]
    cases target : world.session.preview.bind (·.surface) with
    | none => exact .inr ⟨rfl, configuring, .inr ⟨.inl target, rfl⟩⟩
    | some surface =>
        cases chosen : world.session.source with
        | none => exact .inr ⟨rfl, configuring, .inr ⟨.inr rfl, rfl⟩⟩
        | some source =>
            unfold Surfaces.openOutput
            cases world.surfaces.failWriter with
            | true => exact .inl ⟨_, rfl, rfl⟩
            | false =>
                refine .inr ⟨rfl, configuring, .inl ⟨source, surface, rfl, target, ?_⟩⟩
                simp [World.passage, Passage.attached, OutputSlot.install, chosen,
                  Surfaces.updateSource, sources_closeInstalled, outputs_closeInstalled]
  · simp only [startSession, refused]
    exact .inl ⟨_, rfl, trivial⟩

private theorem startSession_move (world : ReplayWorld) :
    PassageMove world (.operation .startSession) world.startSession.2 := by
  rcases startSession_passage world with
    ⟨_, _, same⟩ | ⟨_, configuring, ⟨source, surface, chosen, asked, same⟩ | ⟨absent, same⟩⟩
  · exact .stay rfl same
  · exact .attach configuring chosen asked same
  · exact .activate configuring absent same

private theorem endSession_move (world : ReplayWorld) :
    PassageMove world (.operation .endSession) (endSession world).state := by
  rcases expectState_cases world.session "on_capture_session_end" [.active] with
    ⟨member, allowed⟩ | ⟨_, refused⟩
  · have active : world.session.state = .active := by simpa using member
    have kept := keeps_endCapture world
    simp only [endSession, Activity.bind_apply, Activity.read_apply, allowed]
    rcases performed : endCapture world with ⟨after, emitted, value | value⟩
    · rw [performed] at kept
      exact .stay rfl kept
    · rw [performed] at kept
      refine .signal active ?_
      rw [← kept]
      rfl
  · simp only [endSession, Activity.bind_apply, Activity.read_apply, refused]
    exact .stay rfl rfl

private theorem deinitSession_move (world : ReplayWorld) :
    PassageMove world (.operation .deinitSession) (deinitSession world).state := by
  by_cases done : world.session.state = .deinitialized
  · rw [deinitSession_eq_of_deinitialized done]
    exact .stay rfl rfl
  cases bound : world.session.sequencer with
  | none =>
      rw [deinitSession_eq_of_unbound done bound]
      exact .release done rfl
  | some sequencer =>
      have kept := keeps_endCapture world
      rw [deinitSession_eq_of_bound done (by simp [bound])]
      simp only [Activity.bind_apply]
      rcases performed : endCapture world with ⟨after, emitted, value | value⟩
      · rw [performed] at kept
        exact .stay rfl kept
      · rw [performed] at kept
        exact .release done kept

end World

/-! ## Steps of a session -/

namespace SessionStep

theorem keeps_setParameters (request : CaptureRequest) (world : ReplayWorld) :
    (world.setParameters request).2.passage = world.passage := by
  unfold World.setParameters
  split <;> rfl

private theorem operation_move (operation : Operation) (world : ReplayWorld) :
    PassageMove world (.operation operation) (operation.perform world).state := by
  have answered {α : Type} {inner : Activity ReplayWorld Delivery α} (form : α → Reply)
      (kept : inner.Keeps World.passage) :
      PassageMove world (.operation operation)
        ((inner >>= fun value => pure (form value)) world).state :=
    .stay rfl (Activity.Keeps.bind kept (fun _ _ => rfl) world)
  cases operation with
  | initSession cameraId preview capture =>
      exact World.initSession_move cameraId preview capture world
  | startSession => exact World.startSession_move world
  | setParameters request => exact answered _ (keeps_setParameters request)
  | startRepeating receiver => exact answered _ (World.keeps_whileActive _ _)
  | startMultiFrame receiver => exact answered _ (World.keeps_whileActive _ _)
  | startTrigger request receiver => exact answered _ (World.keeps_whileActive _ _)
  | stopRepeating => exact answered _ (World.keeps_whileActive _ _)
  | endSession =>
      simp only [Operation.perform, Activity.bind_pure_apply]
      exact World.endSession_move world
  | deinitSession =>
      simp only [Operation.perform, Activity.bind_pure_apply]
      exact World.deinitSession_move world

private theorem surroundings_move (step : SurroundingStep) (world : ReplayWorld) :
    PassageMove world (.surroundings step) (step.perform world).state := by
  cases step with
  | produce source timestamp => exact .produce source timestamp
  | forward => exact .forward
  | allocate => exact .stay rfl rfl
  | failWriter failing => exact .stay rfl rfl
  | failSource failure => exact .stay rfl rfl
  | abandon output => exact .abandon output rfl

theorem passageMove (step : SessionStep) (world : ReplayWorld) :
    PassageMove world step (step.perform world).state := by
  cases step with
  | operation operation => exact operation_move operation world
  | channel step =>
      exact .stay rfl (Activity.Keeps.bind (World.keeps_onChannel _) (fun _ _ => rfl) world)
  | surroundings step => exact surroundings_move step world

end SessionStep

end EyesFree
