import EyesFree.Proofs.FrameArrival

namespace EyesFree

/-! What a session holds in each state of its life: a sequencer, an internal frame source
with the relay that listens to it, and an output in the slot. Every operation restores this,
also one that fails, and the states only go forward. -/

/-! ## The way of the preview frames

Frames on their way change what is in the source, the relay and the output, but not which of these
the session holds. -/

/-- Whether someone is notified of the frames of a source, and whether it is closed. -/
structure Attachment where
  listened : Bool
  closed : Bool

def FrameSource.attachment (source : FrameSource) : Attachment := ⟨source.listened, source.closed⟩

structure Fixtures where
  state : SessionState
  source : Option Nat
  target : Option SurfaceId
  relaying : Bool
  installed : Bool
  attachments : List Attachment

def Surfaces.attachments (surfaces : Surfaces) : List Attachment :=
  surfaces.sources.map FrameSource.attachment

def Passage.fixtures (passage : Passage) : Fixtures :=
  ⟨passage.state, passage.source, passage.target, passage.relay.isSome, passage.slot.isInstalled,
    passage.sources.map FrameSource.attachment⟩

namespace FrameSource

private theorem attachment_produce (timestamp : Timestamp) (source : FrameSource) :
    (source.produce timestamp).2.attachment = source.attachment := by
  simp only [attachment, listened_produce, closed_produce]

private theorem attachment_close (source : FrameSource) :
    (source.setListened false).close.attachment = ⟨false, true⟩ := by
  unfold close
  split
  next closed => exact congrArg (Attachment.mk false) closed
  next => rfl

end FrameSource

private theorem Surfaces.attachments_updateSource {surfaces : Surfaces} {source : Nat}
    {change : FrameSource → FrameSource}
    (kept : ∀ queue, surfaces.source? source = some queue →
      (change queue).attachment = queue.attachment) :
    (surfaces.updateSource source change).attachments = surfaces.attachments := by
  apply List.ext_getElem?
  intro place
  simp only [attachments, List.getElem?_map]
  by_cases same : source = place
  · subst same
    have changed := source?_updateSource_self source change surfaces
    rw [source?] at changed
    rw [changed, Option.map_map]
    exact Option.map_congr kept
  · exact congrArg _ (source?_updateSource_ne same change surfaces)

private theorem FrameSource.map_attachment_modify {change : FrameSource → FrameSource}
    {changed : Attachment → Attachment}
    (same : ∀ queue, (change queue).attachment = changed queue.attachment)
    (sources : List FrameSource) (source : Nat) :
    (sources.modify source change).map attachment =
      (sources.map attachment).modify source changed := by
  apply List.ext_getElem?
  intro place
  simp only [List.getElem?_map, List.getElem?_modify, Option.map_eq_map, Option.map_map]
  refine Option.map_congr fun queue _ => ?_
  simp only [Function.comp_apply]
  split
  · exact same queue
  · rfl

private theorem OutputSlot.sources_queue (slot : OutputSlot) (timestamp : Timestamp)
    (surfaces : Surfaces) : (slot.queue timestamp surfaces).2.sources = surfaces.sources :=
  List.ext_getElem? (slot.source?_queue timestamp surfaces)

namespace RelayStage

variable {stage : RelayStage}

private theorem attachments_forward (source : Nat) :
    (stage.forward source).surfaces.attachments = stage.surfaces.attachments := by
  unfold forward
  split
  · rfl
  next frame _ =>
    have released : ((stage.slot.queue frame.timestamp stage.surfaces).2.updateSource source
        (FrameSource.release 1)).attachments =
          (stage.slot.queue frame.timestamp stage.surfaces).2.attachments :=
      Surfaces.attachments_updateSource fun _ _ => rfl
    refine released.trans ?_
    exact congrArg (List.map _) (stage.slot.sources_queue frame.timestamp stage.surfaces)

private theorem slot_forward (source : Nat) : (stage.forward source).slot = stage.slot := by
  unfold forward
  split <;> rfl

private theorem attachments_offer (source : Nat) (frame : Frame) :
    (stage.offer source frame).2.surfaces.attachments = stage.surfaces.attachments := by
  unfold offer
  split
  · rfl
  · exact Surfaces.attachments_updateSource fun _ _ => rfl

private theorem slot_offer (source : Nat) (frame : Frame) :
    (stage.offer source frame).2.slot = stage.slot := by
  unfold offer
  split <;> rfl

end RelayStage

namespace World

variable {world : ReplayWorld}

private theorem fixtures_withStage {stage : RelayStage} (relaying : world.session.relay.isSome)
    (slot : stage.slot = world.session.slot)
    (attachments : stage.surfaces.attachments = world.surfaces.attachments) :
    (world.withStage stage).passage.fixtures = world.passage.fixtures := by
  simp only [Surfaces.attachments] at attachments
  simp [withStage, passage, Passage.fixtures, slot, attachments, relaying]

private theorem fixtures_forwardFrame :
    world.forwardFrame.passage.fixtures = world.passage.fixtures := by
  unfold forwardFrame
  split
  next relay source attached chosen =>
    exact fixtures_withStage (by simp [attached]) (RelayStage.slot_forward source)
      (RelayStage.attachments_forward source)
  next => rfl

private theorem fixtures_relayFrame (source : Nat) :
    (world.relayFrame source).passage.fixtures = world.passage.fixtures := by
  unfold relayFrame
  split
  next relay queue attached found =>
    split
    next => rfl
    next frame rest acquired =>
      have kept : (world.surfaces.updateSource source fun _ => rest).attachments =
          world.surfaces.attachments := by
        apply Surfaces.attachments_updateSource
        intro other same
        rw [found] at same
        cases same
        unfold FrameSource.acquire at acquired
        split at acquired
        · cases acquired
        · cases acquired
          rfl
      refine (fixtures_withStage (by simp [attached]) (RelayStage.slot_offer source frame)
        (RelayStage.attachments_offer source frame)).trans ?_
      simp only [Surfaces.attachments] at kept
      simp only [passage, Passage.fixtures, kept]
  next => rfl

private theorem fixtures_produce (source : Nat) (timestamp : Timestamp) :
    (world.produce source timestamp).2.passage.fixtures = world.passage.fixtures := by
  unfold produce
  split
  next => rfl
  next queue found =>
    have kept : (world.surfaces.updateSource source fun _ =>
        (queue.produce timestamp).2).attachments = world.surfaces.attachments := by
      apply Surfaces.attachments_updateSource
      intro other same
      rw [found] at same
      cases same
      exact queue.attachment_produce timestamp
    simp only [Surfaces.attachments] at kept
    dsimp only
    split
    · refine (fixtures_relayFrame source).trans ?_
      simp only [passage, Passage.fixtures, kept]
    · simp only [passage, Passage.fixtures, kept]

/-! ### Releasing -/

private theorem fixtures_closeSource {source : Nat}
    (chosen : world.session.source = some source) :
    world.closeSource.passage.fixtures =
      { world.passage.fixtures with
        attachments :=
          world.passage.fixtures.attachments.modify source fun _ => ⟨false, true⟩ } := by
  have closed : (world.surfaces.sources.modify source fun queue =>
      (queue.setListened false).close).map FrameSource.attachment =
        world.passage.fixtures.attachments.modify source fun _ => ⟨false, true⟩ :=
    FrameSource.map_attachment_modify FrameSource.attachment_close _ source
  simp only [closeSource, chosen, passage, Passage.fixtures, Surfaces.updateSource, closed]

private theorem fixtures_closeRelay {source : Nat} (chosen : world.session.source = some source) :
    world.closeRelay.passage.fixtures = { world.passage.fixtures with relaying := false } := by
  cases attached : world.session.relay with
  | none => simp [closeRelay, chosen, attached, passage, Passage.fixtures]
  | some relay =>
      let stage := world.stage relay
      let sent : RelayStage := { stage with relay := stage.relay.stopSending }
      have slot : (sent.forward source).slot = world.session.slot :=
        RelayStage.slot_forward source
      have kept : (sent.forward source).surfaces.attachments = world.surfaces.attachments :=
        RelayStage.attachments_forward source
      have closing : world.closeRelay.passage.fixtures =
          { world.passage.fixtures with
            relaying := false
            installed := (sent.forward source).slot.isInstalled
            attachments := (sent.forward source).surfaces.attachments } := by
        simp only [closeRelay, chosen, attached, passage, Passage.fixtures]
        rfl
      rw [closing, slot, kept]
      rfl

private theorem fixtures_closeOutput :
    world.closeOutput.passage.fixtures = { world.passage.fixtures with installed := false } := by
  simp [closeOutput, OutputSlot.release, passage, Passage.fixtures, OutputSlot.isInstalled,
    sources_closeInstalled]

private theorem fixtures_released
    (complete : world.session.source = none → world.session.relay = none) :
    world.released.passage.fixtures =
      { world.passage.fixtures with
        state := .deinitialized
        source := none
        relaying := false
        installed := false
        attachments := match world.passage.fixtures.source with
          | none => world.passage.fixtures.attachments
          | some source =>
              world.passage.fixtures.attachments.modify source fun _ => ⟨false, true⟩ } := by
  have last : world.released.passage.fixtures =
      { world.closeSource.closeRelay.passage.fixtures with
        state := .deinitialized, source := none, installed := false } :=
    congrArg (fun fixtures : Fixtures => { fixtures with state := .deinitialized, source := none })
      (@fixtures_closeOutput world.closeSource.closeRelay)
  have chosen : world.passage.fixtures.source = world.session.source := rfl
  rw [last, chosen]
  cases chosen : world.session.source with
  | none =>
      simp [closeSource, closeRelay, chosen, complete chosen, passage, Passage.fixtures]
  | some source =>
      have stillChosen : world.closeSource.session.source = some source := by
        simp [closeSource, chosen]
      rw [fixtures_closeRelay stillChosen, fixtures_closeSource chosen]

end World

private theorem Passage.fixtures_attached (passage : Passage) (source : Nat)
    (surface : SurfaceId) :
    (passage.attached source surface).fixtures = { passage.fixtures with
      state := .active
      relaying := true
      installed := true
      attachments := passage.fixtures.attachments.modify source fun attachment =>
        { attachment with listened := true } } := by
  have listened : (passage.sources.modify source (FrameSource.setListened true)).map
      FrameSource.attachment =
        passage.fixtures.attachments.modify source fun attachment =>
          { attachment with listened := true } :=
    FrameSource.map_attachment_modify (fun _ => rfl) _ source
  simp only [Passage.fixtures, Passage.attached, listened]
  rfl

/-! ## What fits a state -/

namespace Fixtures

def holds (fixtures : Fixtures) : Bool :=
  fixtures.target.isSome && [.configuring, .active, .ending].contains fixtures.state

def streams (fixtures : Fixtures) : Bool :=
  fixtures.target.isSome && [.active, .ending].contains fixtures.state

/-- What is held is what the state asks for, of a session whose own
sources begin at a place. -/
structure Fits (origin : Nat) (fixtures : Fixtures) : Prop where
  early : fixtures.state = .uninitialized → fixtures.target = none
  source : fixtures.source = if fixtures.holds then some origin else none
  relaying : fixtures.relaying = fixtures.streams
  installed : fixtures.installed = fixtures.streams
  made : fixtures.attachments.length = origin + fixtures.target.toList.length
  attached : ∀ place attachment, origin ≤ place →
    fixtures.attachments[place]? = some attachment →
      attachment.listened = fixtures.streams ∧ (fixtures.holds → attachment.closed = false)

variable {origin : Nat} {fixtures : Fixtures}

private theorem holds_of_streams (streams : fixtures.streams = true) : fixtures.holds = true := by
  simp only [Fixtures.streams, holds, Bool.and_eq_true, List.contains_iff_mem] at streams ⊢
  exact ⟨streams.1, List.mem_cons_of_mem _ streams.2⟩

namespace Fits

private theorem advance (fits : fixtures.Fits origin) {state : SessionState}
    (later : state ≠ .uninitialized) (holds : { fixtures with state }.holds = fixtures.holds)
    (streams : { fixtures with state }.streams = fixtures.streams) :
    { fixtures with state }.Fits origin where
  early := fun uninitialized => absurd uninitialized later
  source := by rw [holds]; exact fits.source
  relaying := by rw [streams]; exact fits.relaying
  installed := by rw [streams]; exact fits.installed
  made := fits.made
  attached := by rw [holds, streams]; exact fits.attached

private theorem prepare (fits : fixtures.Fits origin)
    (uninitialized : fixtures.state = .uninitialized) (target : SurfaceId) :
    Fits origin { fixtures with
      state := .configuring
      source := some fixtures.attachments.length
      target := some target
      attachments := fixtures.attachments ++ [⟨false, false⟩] } := by
  have made := fits.made
  rw [fits.early uninitialized] at made
  have idle : fixtures.streams = false := by simp [streams, uninitialized]
  exact {
    early := by simp
    source := congrArg some made
    relaying := fits.relaying.trans idle
    installed := fits.installed.trans idle
    made := by simp [made]
    attached := by
      intro place attachment own found
      rw [List.getElem?_append_right (by rw [made]; exact own)] at found
      rw [List.mem_singleton.mp (List.mem_of_getElem? found)]
      exact ⟨rfl, fun _ => rfl⟩ }

private theorem place_eq (fits : fixtures.Fits origin) {place : Nat} {attachment : Attachment}
    (own : origin ≤ place) (found : fixtures.attachments[place]? = some attachment) :
    place = origin := by
  have inside := (List.getElem?_eq_some_iff.mp found).1
  have made := fits.made
  have one : fixtures.target.toList.length ≤ 1 := by cases fixtures.target <;> simp
  omega

private theorem of_chosen (fits : fixtures.Fits origin) {source : Nat}
    (chosen : fixtures.source = some source) : source = origin ∧ fixtures.holds = true := by
  have held := fits.source
  rw [chosen] at held
  split at held
  next holds => exact ⟨Option.some.inj held, holds⟩
  next => cases held

private theorem holds_of_sourceless (fits : fixtures.Fits origin)
    (sourceless : fixtures.source = none) :
    fixtures.holds = false := by
  have held := fits.source
  rw [sourceless] at held
  split at held
  next => cases held
  next unheld => exact Bool.eq_false_iff.mpr unheld

private theorem streams_of_sourceless (fits : fixtures.Fits origin)
    (sourceless : fixtures.source = none) :
    fixtures.streams = false :=
  Bool.eq_false_iff.mpr fun streams =>
    Bool.eq_false_iff.mp (fits.holds_of_sourceless sourceless) (holds_of_streams streams)

private theorem unasked_of_sourceless (fits : fixtures.Fits origin)
    (configuring : fixtures.state = .configuring) (sourceless : fixtures.source = none) :
    fixtures.target = none := by
  have unheld := fits.holds_of_sourceless sourceless
  simpa [holds, configuring] using unheld

private theorem attach (fits : fixtures.Fits origin) {source : Nat}
    (chosen : fixtures.source = some source) :
    Fits origin { fixtures with
      state := .active
      relaying := true
      installed := true
      attachments := fixtures.attachments.modify source fun attachment =>
        { attachment with listened := true } } := by
  obtain ⟨rfl, holds⟩ := fits.of_chosen chosen
  have asked : fixtures.target.isSome = true := (Bool.and_eq_true_iff.mp holds).1
  exact {
    early := by simp
    source := by simp [Fixtures.holds, asked, chosen]
    relaying := by simp [streams, asked]
    installed := by simp [streams, asked]
    made := by simp [fits.made]
    attached := by
      intro place attachment own found
      rw [List.getElem?_modify] at found
      obtain ⟨before, present, rfl⟩ := Option.map_eq_some_iff.mp found
      obtain rfl := fits.place_eq own present
      simpa [streams, asked] using fun _ => (fits.attached place before own present).2 holds }

private theorem release (fits : fixtures.Fits origin) :
    Fits origin { fixtures with
      state := .deinitialized
      source := none
      relaying := false
      installed := false
      attachments := match fixtures.source with
        | none => fixtures.attachments
        | some source => fixtures.attachments.modify source fun _ => ⟨false, true⟩ } where
  early := by simp
  source := by simp [holds]
  relaying := by simp [streams]
  installed := by simp [streams]
  made := by
    cases fixtures.source with
    | none => exact fits.made
    | some source => exact (List.length_modify ..).trans fits.made
  attached := by
    intro place attachment own found
    have idle : Fixtures.streams { fixtures with state := .deinitialized } = false := by
      simp [streams]
    refine ⟨Eq.trans ?_ idle.symm, by simp [holds]⟩
    cases chosen : fixtures.source with
    | none =>
        rw [chosen] at found
        exact (fits.attached place attachment own found).1.trans (fits.streams_of_sourceless chosen)
    | some source =>
        rw [chosen, List.getElem?_modify] at found
        obtain ⟨before, present, rfl⟩ := Option.map_eq_some_iff.mp found
        obtain rfl := fits.place_eq own present
        obtain ⟨rfl, _⟩ := fits.of_chosen chosen
        simp

end Fits

private theorem Fits.move {world after : ReplayWorld} {step : SessionStep}
    (fits : world.passage.fixtures.Fits origin) (move : PassageMove world step after) :
    after.passage.fixtures.Fits origin := by
  cases move with
  | stay quiet same => exact same ▸ fits
  | abandon output same => exact same ▸ fits
  | configure quiet uninitialized same =>
      have unasked : world.passage.fixtures.target = none := fits.early uninitialized
      rw [same]
      exact fits.advance (by simp) (by simp [holds, unasked]) (by simp [streams, unasked])
  | @prepare _ _ surface size format maxImages target quiet uninitialized same =>
      have fixtures : after.passage.fixtures = { world.passage.fixtures with
          state := .configuring
          source := some world.passage.fixtures.attachments.length
          target := some target
          attachments := world.passage.fixtures.attachments ++ [⟨false, false⟩] } := by
        rw [same]
        simp [Passage.fixtures, World.passage, FrameSource.attachment, FrameSource.of]
      rw [fixtures]
      exact fits.prepare uninitialized target
  | @attach _ source surface configuring chosen asked same =>
      rw [same, Passage.fixtures_attached]
      exact fits.attach chosen
  | activate configuring absent same =>
      have unasked : world.passage.fixtures.target = none := by
        rcases absent with unasked | sourceless
        · exact unasked
        · exact fits.unasked_of_sourceless configuring sourceless
      rw [same]
      exact fits.advance (by simp) (by simp [holds, unasked]) (by simp [streams, unasked])
  | signal active same =>
      have state : world.passage.fixtures.state = .active := active
      rw [same]
      exact fits.advance (by simp) (by simp [holds, state]) (by simp [streams, state])
  | @release ended living same =>
      rw [← same] at fits
      have complete : ended.session.source = none → ended.session.relay = none := by
        intro sourceless
        have idle := fits.relaying.trans (fits.streams_of_sourceless sourceless)
        exact Option.isNone_iff_eq_none.mp (Option.isSome_eq_false_iff.mp idle)
      rw [World.fixtures_released complete]
      exact fits.release
  | produce source timestamp => exact (World.fixtures_produce source timestamp).symm ▸ fits
  | forward => exact World.fixtures_forwardFrame.symm ▸ fits

end Fixtures

/-! ## Previews that were asked for -/

/-- The surface that a step asks preview frames for, if the outputs that it
describes are accepted. -/
def SessionStep.preview? (step : SessionStep) (outcome : Except Fault Reply) : Option SurfaceId :=
  match step, outcome with
  | .operation (.initSession _ preview _), .ok (.configured _) => preview.surface
  | _, _ => none

def requestedPreviews (world : ReplayWorld) (steps : List SessionStep) : List SurfaceId :=
  notedBy SessionStep.perform
    (fun world step => (step.preview? (step.perform world).outcome).toList) world steps

namespace SessionStep

private theorem target_initSession (cameraId : String) (preview capture : OutputSurface)
    (world : ReplayWorld) :
    let step : SessionStep := .operation (.initSession cameraId preview capture)
    (step.perform world).state.passage.target =
      (step.preview? (step.perform world).outcome).or world.passage.target := by
  intro step
  have performed : step.perform world =
      ⟨(world.initSession cameraId preview capture).2, [],
        .ok (.ofOutcome .configured (world.initSession cameraId preview capture).1)⟩ := by
    simp only [step, perform, Operation.perform, Activity.bind_pure_apply, Activity.step_apply,
      Except.map]
  rw [performed]
  unfold World.initSession
  split
  next => rfl
  next =>
    dsimp only
    split
    next present =>
      obtain ⟨target, asked⟩ := Option.isSome_iff_exists.mp present
      split
      next => rfl
      next => simp [step, preview?, Reply.ofOutcome, World.passage, asked]
    next absent =>
      have unasked : preview.surface = none := by
        simpa [OutputSurface.isPresent] using absent
      simp [step, preview?, Reply.ofOutcome, World.passage, unasked]

private theorem target_released (world : ReplayWorld) :
    world.released.passage.target = world.passage.target := by
  have source : world.closeSource.session.preview = world.session.preview := by
    unfold World.closeSource
    split <;> rfl
  have relay : world.closeSource.closeRelay.session.preview =
      world.closeSource.session.preview := by
    unfold World.closeRelay
    split <;> rfl
  exact congrArg (·.bind (·.surface)) (relay.trans source)

private theorem keeps_target_endSession :
    (World.endSession : Activity ReplayWorld Delivery _).Keeps (·.passage.target) := by
  refine Activity.Keeps.bind (fun _ => rfl) fun world => ?_
  dsimp only
  split
  next => exact fun _ => rfl
  next =>
    refine Activity.Keeps.bind ?_ fun _ _ => rfl
    exact fun world => congrArg Passage.target (World.keeps_endCapture world)

private theorem keeps_target_deinitSession :
    (World.deinitSession : Activity ReplayWorld Delivery _).Keeps (·.passage.target) := by
  intro world
  by_cases done : world.session.state = .deinitialized
  · rw [World.deinitSession_eq_of_deinitialized done]
  cases bound : world.session.sequencer with
  | none =>
      rw [World.deinitSession_eq_of_unbound done bound]
      exact target_released world
  | some sequencer =>
      rw [World.deinitSession_eq_of_bound done (by simp [bound])]
      have ended : (World.endCapture : Activity ReplayWorld Delivery Unit).Keeps
          (·.passage.target) := fun world => congrArg Passage.target (World.keeps_endCapture world)
      have released : ∀ _ : Unit,
          (Activity.modify World.released : Activity ReplayWorld Delivery Unit).Keeps
            (·.passage.target) := fun _ => target_released
      exact ended.bind released world

private theorem target_operation (operation : Operation) (world : ReplayWorld) :
    let step : SessionStep := .operation operation
    (step.perform world).state.passage.target =
      (step.preview? (step.perform world).outcome).or world.passage.target := by
  have answered {α : Type} {inner : Activity ReplayWorld Delivery α} (form : α → Reply)
      (kept : inner.Keeps (·.passage.target)) :
      ((inner >>= fun value => pure (form value)) world).state.passage.target =
        world.passage.target := Activity.Keeps.bind kept (fun _ _ => rfl) world
  have kept {α : Type} {inner : Activity ReplayWorld Delivery α}
      (kept : inner.Keeps World.passage) : inner.Keeps (·.passage.target) := fun world =>
    congrArg Passage.target (kept world)
  cases operation with
  | initSession cameraId preview capture => exact target_initSession cameraId preview capture world
  | startSession =>
      refine answered _ fun world => ?_
      rcases World.startSession_passage world with
        ⟨_, _, same⟩ | ⟨_, _, ⟨source, surface, _, _, same⟩ | ⟨_, same⟩⟩
      · exact congrArg Passage.target same
      · exact (congrArg Passage.target same).trans rfl
      · exact (congrArg Passage.target same).trans rfl
  | setParameters request => exact answered _ (kept (keeps_setParameters request))
  | startRepeating receiver => exact answered _ (kept (World.keeps_whileActive _ _))
  | startMultiFrame receiver => exact answered _ (kept (World.keeps_whileActive _ _))
  | startTrigger request receiver => exact answered _ (kept (World.keeps_whileActive _ _))
  | stopRepeating => exact answered _ (kept (World.keeps_whileActive _ _))
  | endSession => exact answered _ keeps_target_endSession
  | deinitSession => exact answered _ keeps_target_deinitSession

private theorem target_perform (step : SessionStep) (world : ReplayWorld) :
    (step.perform world).state.passage.target =
      (step.preview? (step.perform world).outcome).or world.passage.target := by
  cases step with
  | operation operation => exact target_operation operation world
  | channel step =>
      exact congrArg Passage.target
        (Activity.Keeps.bind (World.keeps_onChannel _) (fun _ _ => rfl) world)
  | surroundings step =>
      cases step with
      | produce source timestamp =>
          exact congrArg Fixtures.target (World.fixtures_produce source timestamp)
      | forward => exact congrArg Fixtures.target World.fixtures_forwardFrame
      | allocate => rfl
      | failWriter failing => rfl
      | failSource failure => rfl
      | abandon output => rfl

private theorem uninitialized_of_preview? {step : SessionStep} {world : ReplayWorld}
    {target : SurfaceId} (asked : step.preview? (step.perform world).outcome = some target) :
    world.session.state = .uninitialized := by
  unfold preview? at asked
  split at asked
  next cameraId preview capture configuration outcome =>
    simp only [perform, Operation.perform, Activity.bind_pure_apply, Activity.step_apply,
      Except.map] at outcome
    rcases World.initSession_cases cameraId preview capture world with
      ⟨error, failed, _⟩ | ⟨_, _, uninitialized, _⟩
    · rw [failed] at outcome
      cases outcome
    · exact uninitialized
  next => cases asked

end SessionStep

/-! ## Captures -/

namespace Captures

/-- A sequencer is bound while the session is active, and the end is signaled after that. -/
structure Fits (captures : Captures) : Prop where
  bound : captures.sequencer.isSome ↔ captures.state = .active
  opened : captures.state ∈ [.uninitialized, .configuring, .active] →
    captures.context.ended = false
  ended : captures.state = .ending → captures.context.ended = true

variable {captures after : Captures} {performed : SessionStep} {emitted : List Delivery}
  {outcome : Except Fault Reply}

private theorem Fits.step (fits : captures.Fits)
    (next : CaptureStep captures performed emitted outcome after) : after.Fits := by
  obtain ⟨bound, opened, ended⟩ := fits
  cases next with
  | cut => exact ⟨bound, opened, ended⟩
  | moved move =>
      cases move with
      | configure uninitialized =>
          exact {
            bound := by simpa [uninitialized] using bound
            opened := fun _ => opened (by simp [uninitialized])
            ended := by simp }
      | bind configuring =>
          exact {
            bound := by simp
            opened := fun _ => opened (by simp [configuring])
            ended := by simp }
      | refuse active => exact ⟨by simp [active], opened, ended⟩
      | renew active => exact ⟨by simp [active], opened, ended⟩
      | submit active => exact ⟨by simp [active], opened, ended⟩
      | stop active => exact ⟨by simp [active], opened, ended⟩
      | finish _ state later =>
          rcases later with rfl | rfl
          · exact ⟨by simp [finished], by simp [finished], fun _ => rfl⟩
          · exact ⟨by simp [finished], by simp [finished], fun _ => rfl⟩
      | release unbound => exact ⟨by simp [unbound], by simp, by simp⟩
      | stay => exact ⟨bound, opened, ended⟩
      | parametrize => exact ⟨bound, opened, ended⟩
      | switch => exact ⟨bound, opened, ended⟩
      | frame => exact ⟨bound, opened, ended⟩
      | drain => exact ⟨bound, opened, ended⟩

private theorem Fits.ordinal_le (fits : captures.Fits)
    (next : CaptureStep captures performed emitted outcome after) :
    Enumeration.ordinal captures.state ≤ Enumeration.ordinal after.state := by
  cases next with
  | cut => exact Nat.le_refl _
  | moved move =>
      cases move with
      | configure uninitialized =>
          rw [uninitialized]
          exact Nat.le_succ 0
      | bind configuring =>
          rw [configuring]
          exact Nat.le_succ 1
      | finish bound state later =>
          rw [fits.bound.mp (Option.isSome_of_eq_some bound)]
          rcases later with rfl | rfl
          · exact Nat.le_succ 2
          · exact Nat.le_add_right 2 2
      | release =>
          cases captures.state with
          | uninitialized => exact Nat.zero_le 4
          | configuring => exact Nat.le_add_right 1 3
          | active => exact Nat.le_add_right 2 2
          | ending => exact Nat.le_succ 3
          | deinitialized => exact Nat.le_refl 4
      | _ => exact Nat.le_refl _

end Captures

/-! ## Runs -/

section

variable (capabilities : Capabilities) (config : SessionConfig) (surfaces : Surfaces)
  (steps : List SessionStep)

private theorem Captures.Fits.fresh :
    (World.fresh capabilities config surfaces).captures.Fits where
  bound := by simp [World.fresh, World.captures, Session.new]
  opened := fun _ => rfl
  ended := by simp [World.fresh, World.captures, Session.new]

private theorem Captures.Fits.run :
    let start := World.fresh capabilities config surfaces
    (stateAfter SessionStep.perform start steps).captures.Fits :=
  stateAfter_of_preserved SessionStep.perform (motive := fun world => world.captures.Fits)
    (fun _ step fits => fits.step (step.captureStep fits.bound.mpr))
    (fresh capabilities config surfaces) steps

private theorem Fixtures.Fits.run :
    let start := World.fresh capabilities config surfaces
    (stateAfter SessionStep.perform start steps).passage.fixtures.Fits surfaces.sources.length := by
  refine stateAfter_of_preserved SessionStep.perform
    (motive := fun world => world.passage.fixtures.Fits surfaces.sources.length)
    (fun world step fits => fits.move (step.passageMove world)) ?_ steps
  exact {
    early := fun _ => rfl
    source := rfl
    relaying := rfl
    installed := rfl
    made := List.length_map ..
    attached := by
      intro place attachment own found
      have inside := (List.getElem?_eq_some_iff.mp found).1
      have made : (World.fresh capabilities config surfaces).passage.fixtures.attachments.length =
          surfaces.sources.length := List.length_map ..
      omega }

private theorem requestedPreviews_eq :
    let start := World.fresh capabilities config surfaces
    requestedPreviews start steps =
      (stateAfter SessionStep.perform start steps).passage.target.toList := by
  intro start
  induction steps using List.reverseRecOn with
  | nil => rfl
  | append_singleton steps step induction =>
      have fits := Fixtures.Fits.run capabilities config surfaces steps
      rw [requestedPreviews, notedBy_concat, stateAfter_concat, SessionStep.target_perform]
      rw [requestedPreviews] at induction
      rw [induction]
      cases asked : step.preview?
          (step.perform (stateAfter SessionStep.perform start steps)).outcome with
      | none => simp
      | some target =>
          have unasked : (stateAfter SessionStep.perform start steps).passage.target = none :=
            fits.early (SessionStep.uninitialized_of_preview? asked)
          simp [unasked]

private theorem ordinal_mono {earlier : List SessionStep} (before : earlier <+: steps) :
    let start := World.fresh capabilities config surfaces
    Enumeration.ordinal (stateAfter SessionStep.perform start earlier).session.state ≤
      Enumeration.ordinal (stateAfter SessionStep.perform start steps).session.state := by
  intro start
  obtain ⟨later, rfl⟩ := before
  induction later using List.reverseRecOn with
  | nil => exact Nat.le_of_eq (by rw [List.append_nil])
  | append_singleton later step induction =>
      have fits := Captures.Fits.run capabilities config surfaces (earlier ++ later)
      rw [← List.append_assoc, stateAfter_concat]
      exact Nat.le_trans induction (fits.ordinal_le (step.captureStep fits.bound.mpr))

end

/-- What a session holds of its collaborators in a world in which its own sources begin at a
place. It holds more if preview frames were requested. -/
structure Holdings (origin : Nat) (requested : Bool) (world : ReplayWorld) : Prop where
  sequencer : world.session.sequencer.isSome ↔ world.session.state = .active
  relay : world.session.relay.isSome ↔ requested ∧ world.session.state ∈ [.active, .ending]
  output : world.session.slot.isInstalled ↔ requested ∧ world.session.state ∈ [.active, .ending]
  source : world.session.source.isSome ↔
    requested ∧ world.session.state ∈ [.configuring, .active, .ending]
  /-- A source that is held was made by the session and is open. -/
  opened : ∀ held, world.session.source = some held →
    held = origin ∧ ∃ queue, world.surfaces.source? held = some queue ∧ queue.closed = false
  /-- The relay listens to the sources of the session as long as it exists. -/
  listened : ∀ place queue, origin ≤ place → world.surfaces.source? place = some queue →
    (queue.listened ↔ requested ∧ world.session.state ∈ [.active, .ending])
  signaled : world.session.state = .ending → world.session.context.ended = true
  unsignaled : world.session.state ∈ [.uninitialized, .configuring, .active] →
    world.session.context.ended = false

private theorem Holdings.of_fits {origin : Nat} {world : ReplayWorld}
    (fixtures : world.passage.fixtures.Fits origin) (captures : world.captures.Fits) :
    Holdings origin world.passage.target.isSome world := by
  have streams : world.passage.fixtures.streams ↔
      world.passage.target.isSome ∧ world.session.state ∈ [.active, .ending] := by
    simp [Fixtures.streams, Passage.fixtures, World.passage]
  have holds : world.passage.fixtures.holds ↔
      world.passage.target.isSome ∧ world.session.state ∈ [.configuring, .active, .ending] := by
    simp [Fixtures.holds, Passage.fixtures, World.passage]
  exact {
    sequencer := captures.bound
    relay := by
      rw [← streams, ← fixtures.relaying]
      rfl
    output := by
      rw [← streams, ← fixtures.installed]
      rfl
    source := by
      have held : world.session.source = _ := fixtures.source
      rw [← holds, held]
      split <;> simp [*]
    opened := by
      intro source chosen
      obtain ⟨rfl, held⟩ := fixtures.of_chosen chosen
      have asked : world.passage.fixtures.target.isSome := (Bool.and_eq_true_iff.mp held).1
      have inside : source < world.surfaces.sources.length := by
        obtain ⟨target, asked⟩ := Option.isSome_iff_exists.mp asked
        have made : world.surfaces.sources.length = _ :=
          (List.length_map FrameSource.attachment).symm.trans fixtures.made
        simp [made, asked]
      have present := List.getElem?_eq_getElem inside
      have attached : world.passage.fixtures.attachments[source]? =
          some world.surfaces.sources[source].attachment :=
        (List.getElem?_map ..).trans (congrArg (Option.map _) present)
      exact ⟨rfl, _, present, (fixtures.attached source _ (Nat.le_refl _) attached).2 held⟩
    listened := by
      intro place queue own found
      have present : world.passage.fixtures.attachments[place]? = some queue.attachment :=
        (List.getElem?_map ..).trans (congrArg (Option.map _) found)
      rw [← streams, ← (fixtures.attached place queue.attachment own present).1]
      rfl
    signaled := captures.ended
    unsignaled := captures.opened }

/-- Every operation of a session, also one that fails, leaves it with what its state asks
for, and no operation leads back to an earlier state. -/
theorem holdings_run (capabilities : Capabilities) (config : SessionConfig) (surfaces : Surfaces)
    (steps : List SessionStep) :
    let start := World.fresh capabilities config surfaces
    let requested := !(requestedPreviews start steps).isEmpty
    Holdings surfaces.sources.length requested (stateAfter SessionStep.perform start steps) ∧
      ∀ earlier, earlier <+: steps →
        Enumeration.ordinal (stateAfter SessionStep.perform start earlier).session.state ≤
          Enumeration.ordinal (stateAfter SessionStep.perform start steps).session.state := by
  intro start requested
  have asked : requested = (stateAfter SessionStep.perform start steps).passage.target.isSome := by
    simp only [requested, start, requestedPreviews_eq]
    cases (stateAfter SessionStep.perform start steps).passage.target <;> rfl
  refine ⟨?_, fun earlier before => ordinal_mono capabilities config surfaces steps before⟩
  rw [asked]
  exact .of_fits (Fixtures.Fits.run capabilities config surfaces steps)
    (Captures.Fits.run capabilities config surfaces steps)

def retriedStart : List SessionStep :=
  [.operation (.initSession "0" (.of 7 ⟨640, 480⟩ .yuv420) .absent),
    .surroundings (.failWriter true), .operation .startSession,
    .surroundings (.failWriter false), .operation .startSession]

theorem holdings_run_retried :
    let start := World.fresh (.eyesFree (.ofExtent 4000 3000)) ⟨4, "relay"⟩ {}
    let failed := stateAfter SessionStep.perform start (retriedStart.take 3)
    let world := stateAfter SessionStep.perform start retriedStart
    failed.session.state = .configuring ∧ world.session.state = .active ∧
      world.session.relay.isSome ∧ (∃ queue, world.surfaces.source? 0 = some queue ∧
        queue.closed = false ∧ queue.listened = true) ∧
      Enumeration.ordinal failed.session.state ≤ Enumeration.ordinal world.session.state := by
  intro start failed world
  obtain ⟨held, forward⟩ :=
    holdings_run (.eyesFree (.ofExtent 4000 3000)) ⟨4, "relay"⟩ {} retriedStart
  have active : world.session.state = .active := by decide +kernel
  have streams : !(requestedPreviews start retriedStart).isEmpty ∧
      world.session.state ∈ [.active, .ending] := by decide +kernel
  obtain ⟨source, chosen⟩ := Option.isSome_iff_exists.mp
    (held.source.mpr ⟨streams.1, by rw [show world.session.state = _ from active]; decide⟩)
  obtain ⟨rfl, queue, found, unclosed⟩ := held.opened source chosen
  have listened := (held.listened _ queue (Nat.le_refl _) found).mpr streams
  exact ⟨by decide +kernel, active, held.relay.mpr streams, ⟨queue, found, unclosed, listened⟩,
    forward _ (List.take_prefix ..)⟩

end EyesFree
