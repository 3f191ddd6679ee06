import EyesFree.Proofs.Sequencer
import EyesFree.Session.Run

namespace EyesFree

/-! What a step of a session can do to its captures, said once. Everything that is known
about the events of a run is derived from these moves, not from the operations. -/

/-- The part of a session and its channel that captures go through. -/
structure Captures where
  state : SessionState
  context : CaptureContext
  sequencer : Option Sequencer
  channel : ReplayChannel Subscription

def World.captures (world : ReplayWorld) : Captures :=
  ⟨world.session.state, world.session.context, world.session.sequencer, world.channel⟩

/-! ## Starts of captures -/

/-- A start of a capture that was accepted, with the parameters that it was made with. -/
structure Start where
  subscription : Subscription
  parameters : Snapshot
deriving DecidableEq

namespace Start

def sequence (start : Start) : SequenceId := start.subscription.sequence

def kind (start : Start) : RequestKind := start.subscription.kind

def receiver (start : Start) : Receiver := start.subscription.receiver

def request (start : Start) : Request := .of start.kind start.parameters

end Start

/-- The kind, the parameters and the receiver of the capture that a step asks for. Parameters
that were set before count, except for a trigger. -/
def SessionStep.capture? (context : CaptureContext) :
    SessionStep → Option (RequestKind × Snapshot × Receiver)
  | .operation (.startRepeating receiver) =>
      some (.repeating, context.parameters.snapshot, receiver)
  | .operation (.startMultiFrame receiver) =>
      some (.multiFrame, context.parameters.snapshot, receiver)
  | .operation (.startTrigger request receiver) =>
      some (.trigger, request.supported context.capabilities, receiver)
  | _ => none

def SessionStep.start? (context : CaptureContext) (step : SessionStep)
    (outcome : Except Fault Reply) : Option Start :=
  match step.capture? context, outcome with
  | some (kind, parameters, receiver), .ok (.started id) => some ⟨⟨id, kind, receiver⟩, parameters⟩
  | _, _ => none

/-- A step stores the published entries of a request over the
parameters, which gives others. -/
def SessionStep.Stores (context : CaptureContext) (step : SessionStep)
    (parameters : Parameters) : Prop :=
  ∃ request, step = .operation (.setParameters request) ∧
    parameters = (context.parameters.set context.capabilities request).2

/-! ## Moves -/

/-- The captures when the session has ended: what was submitted is gone, late reports are
held back and no capture can be started any more. -/
def Captures.finished (captures : Captures) (state : SessionState) (parameters : Parameters) :
    Captures where
  state
  context := { captures.context with parameters, ended := true }
  sequencer := none
  channel := captures.channel.aborted

inductive CaptureMove (captures : Captures) :
    SessionStep → List Delivery → Except Fault Reply → Captures → Prop
  /-- The captures are not concerned. -/
  | stay {step outcome} (unstarted : ∀ id, outcome ≠ .ok (.started id)) :
      CaptureMove captures step [] outcome captures
  | configure {step configuration} (uninitialized : captures.state = .uninitialized) :
      CaptureMove captures step [] (.ok (.configured configuration))
        { captures with state := .configuring }
  | bind {step} (configuring : captures.state = .configuring) :
      CaptureMove captures step [] (.ok .done)
        { captures with state := .active, sequencer := some {} }
  | parametrize {step count} (parameters : Parameters)
      (stored : step.Stores captures.context parameters) :
      CaptureMove captures step [] (.ok (.stored count))
        { captures with context := { captures.context with parameters } }
  /-- A start is refused by the channel; its id is lost. -/
  | refuse {step sequencer} (active : captures.state = .active)
      (bound : captures.sequencer = some sequencer)
      (asked : (step.capture? captures.context).isSome) :
      CaptureMove captures step [] (.ok (.refused ReplayChannel.rejection))
        { captures with sequencer := some sequencer.advanced }
  /-- A repeating request takes the slot; one that was there before is completed. -/
  | renew {step sequencer snapshot receiver} (active : captures.state = .active)
      (bound : captures.sequencer = some sequencer) (room : sequencer.next ≤ SequenceId.limit)
      (asked : step.capture? captures.context = some (.repeating, snapshot, receiver)) :
      CaptureMove captures step
        (captures.channel.repeating.toList.flatMap
          (ReplayChannel.toldEnd captures.context.hear captures.channel.nextFrame))
        (.ok (.started sequencer.nextId))
        { captures with
          sequencer := some (sequencer.advanced.record sequencer.nextId)
          channel := captures.channel.renewed
            (sequencer.flightOf captures.channel .repeating snapshot receiver) }
  /-- A request for one capture becomes pending. -/
  | submit {step sequencer kind snapshot receiver} (active : captures.state = .active)
      (bound : captures.sequencer = some sequencer) (room : sequencer.next ≤ SequenceId.limit)
      (asked : step.capture? captures.context = some (kind, snapshot, receiver))
      (once : kind ≠ .repeating) :
      CaptureMove captures step [⟨receiver, .processStarted sequencer.nextId⟩]
        (.ok (.started sequencer.nextId))
        { captures with
          sequencer := some sequencer.advanced
          channel := captures.channel.enqueued
            (sequencer.flightOf captures.channel kind snapshot receiver) }
  /-- The request in the slot is stopped. -/
  | stop {step sequencer} (active : captures.state = .active)
      (bound : captures.sequencer = some sequencer) (recorded : sequencer.repeating.isSome) :
      CaptureMove captures step
        (captures.channel.repeating.toList.flatMap
          (ReplayChannel.toldEnd captures.context.hear captures.channel.nextFrame))
        (.ok .done)
        { captures with
          sequencer := some sequencer.cleared, channel := captures.channel.stopped }
  | switch {step} (rejecting : Bool) :
      CaptureMove captures step [] (.ok (.channel .done))
        { captures with channel := { captures.channel with rejecting } }
  /-- There are reports on a frame of the request in the slot. -/
  | frame {step reports flight} (about : step.repeatingReports? = some reports)
      (running : captures.channel.repeating = some flight) :
      CaptureMove captures (.channel step)
        (ReplayChannel.toldFrame captures.context.hear flight (reports captures.channel.nextFrame))
        (.ok (.channel (.flag true))) { captures with channel := captures.channel.framed }
  /-- There are reports on a frame of all pending requests, which end. -/
  | drain {step reports} (about : step.pendingReports? = some reports) :
      CaptureMove captures (.channel step)
        (ReplayChannel.toldDrain captures.context.hear reports captures.channel.nextFrame
          captures.channel.pending)
        (.ok (.channel (.count captures.channel.pending.length)))
        { captures with channel := captures.channel.drained }
  /-- The session ends: what was submitted is aborted, and reports are held back already. -/
  | finish {step sequencer} (bound : captures.sequencer = some sequencer) (state : SessionState)
      (later : state = .ending ∨ state = .deinitialized) (parameters : Parameters)
      (kept : parameters = captures.context.parameters ∨ parameters = .empty) :
      CaptureMove captures step
        ((captures.channel.repeating.toList ++ captures.channel.pending).flatMap
          (ReplayChannel.toldAbort { captures.context with ended := true }.hear))
        (.ok .done) (captures.finished state parameters)
  /-- A session without a sequencer is released. -/
  | release {step} (unbound : captures.sequencer = none) :
      CaptureMove captures step [] (.ok .done)
        { captures with
          state := .deinitialized
          context := { captures.context with parameters := .empty } }

/-! ## Operations of an active session -/

namespace World

theorem activeSequencer_cases (session : Session) (operation : String) :
    (∃ sequencer, session.state = .active ∧ session.sequencer = some sequencer ∧
        session.activeSequencer operation = .ok sequencer) ∨
      session.activeSequencer operation = .error (.invalidState operation session.state) := by
  unfold Session.activeSequencer
  split
  next sequencer bound active => exact .inl ⟨sequencer, active, bound, rfl⟩
  next => exact .inr rfl

variable {α : Type} {world : ReplayWorld} {operation : String}
  {inner : CaptureContext → Activity (Sequencer × ReplayChannel Subscription) Delivery
    (Except Error α)}

theorem whileActive_eq_of_error {error : Error}
    (refused : world.session.activeSequencer operation = .error error) :
    whileActive operation inner world = ⟨world, [], .ok (.error error)⟩ := by
  simp only [whileActive, Activity.bind_apply, Activity.read_apply, refused]
  rfl

theorem whileActive_eq {sequencer : Sequencer}
    (allowed : world.session.activeSequencer operation = .ok sequencer) :
    let performed := inner world.session.context (sequencer, world.channel)
    whileActive operation inner world =
      ⟨{ world with
          session := { world.session with sequencer := some performed.state.1 }
          channel := performed.state.2 }, performed.emitted, performed.outcome⟩ := by
  simp only [whileActive, Activity.bind_apply, Activity.read_apply, allowed, onSequencer,
    Activity.on_apply]
  rfl

/-! ## Everything but captures -/

theorem onChannel_eq {inner : Hearing Subscription Delivery →
    Activity (ReplayChannel Subscription) Delivery α} :
    let performed := inner world.session.context.hear world.channel
    onChannel inner world =
      ⟨{ world with channel := performed.state }, performed.emitted, performed.outcome⟩ := rfl

@[simp] theorem captures_forwardFrame : world.forwardFrame.captures = world.captures := by
  unfold forwardFrame
  split <;> rfl

@[simp] theorem captures_relayFrame (source : Nat) :
    (world.relayFrame source).captures = world.captures := by
  unfold relayFrame
  split
  · split <;> rfl
  · rfl

@[simp] theorem captures_produce (source : Nat) (timestamp : Timestamp) :
    (world.produce source timestamp).2.captures = world.captures := by
  unfold produce
  split
  · rfl
  · dsimp only
    split
    · exact captures_relayFrame source
    · rfl

@[simp] theorem captures_closeSource : world.closeSource.captures = world.captures := by
  unfold closeSource
  split <;> rfl

@[simp] theorem captures_closeRelay : world.closeRelay.captures = world.captures := by
  unfold closeRelay
  split <;> rfl

@[simp] theorem captures_closeOutput : world.closeOutput.captures = world.captures := rfl

/-! ## Ending -/

theorem endCapture_eq {sequencer : Sequencer}
    (bound : world.session.sequencer = some sequencer) :
    endCapture world =
      ⟨{ world with
          session := { world.session with
            context := { world.session.context with ended := true }, sequencer := none }
          channel := world.channel.aborted },
        (world.channel.repeating.toList ++ world.channel.pending).flatMap
          (ReplayChannel.toldAbort { world.session.context with ended := true }.hear),
        .ok ()⟩ := by
  simp only [endCapture, Activity.bind_apply, Activity.modify_apply, Activity.read_apply, bound,
    onSequencer, Activity.on_apply, Sequencer.abortAll_eq]
  simp

def released (world : ReplayWorld) : ReplayWorld :=
  let closed := world.closeSource.closeRelay.closeOutput
  { closed with session := { closed.session with
      source := none
      context := { closed.session.context with parameters := .empty }
      state := .deinitialized } }

theorem captures_released :
    world.released.captures =
      { world.captures with
        state := .deinitialized
        context := { world.captures.context with parameters := .empty } } := by
  have same : world.closeSource.closeRelay.closeOutput.captures = world.captures := by simp
  rw [← same]
  rfl

theorem endSession_eq (active : world.session.state = .active) {sequencer : Sequencer}
    (bound : world.session.sequencer = some sequencer) :
    endSession world =
      ⟨{ world with
          session := { world.session with
            context := { world.session.context with ended := true }
            sequencer := none
            state := .ending }
          channel := world.channel.aborted },
        (world.channel.repeating.toList ++ world.channel.pending).flatMap
          (ReplayChannel.toldAbort { world.session.context with ended := true }.hear),
        .ok (.ok ())⟩ := by
  have allowed : world.session.expectState "on_capture_session_end" [.active] = .ok () :=
    if_pos (by simp [active])
  simp only [endSession, Activity.bind_apply, Activity.read_apply, allowed, endCapture_eq bound,
    Activity.modify_apply, Activity.pure_apply, List.nil_append, List.append_nil]

theorem deinitSession_eq_of_deinitialized (done : world.session.state = .deinitialized) :
    deinitSession world = ⟨world, [], .ok ()⟩ := by
  simp [deinitSession, Activity.bind_apply, done]

theorem deinitSession_eq_of_unbound (living : world.session.state ≠ .deinitialized)
    (unbound : world.session.sequencer = none) :
    deinitSession world = ⟨world.released, [], .ok ()⟩ := by
  simp [deinitSession, Activity.bind_apply, living, unbound, released]

theorem deinitSession_eq_of_bound (living : world.session.state ≠ .deinitialized)
    (bound : world.session.sequencer.isSome) :
    deinitSession world = (do endCapture; Activity.modify released) world := by
  simp [deinitSession, Activity.bind_apply, living, bound, released]

theorem captures_deinitSession (living : world.session.state ≠ .deinitialized)
    {sequencer : Sequencer} (bound : world.session.sequencer = some sequencer) :
    let performed := deinitSession world
    performed.state.captures = world.captures.finished .deinitialized .empty ∧
      performed.emitted = (world.channel.repeating.toList ++ world.channel.pending).flatMap
        (ReplayChannel.toldAbort { world.session.context with ended := true }.hear) ∧
      performed.outcome = .ok () := by
  rw [deinitSession_eq_of_bound living (by simp [bound]),
    Activity.bind_of_ok (endCapture_eq bound)]
  simp only [Activity.modify_apply, captures_released, List.append_nil, and_self, and_true]
  rfl

/-! ## Setting up -/

theorem expectState_cases (session : Session) (operation : String) (allowed : List SessionState) :
    (session.state ∈ allowed ∧ session.expectState operation allowed = .ok ()) ∨
      session.state ∉ allowed ∧
        session.expectState operation allowed = .error (.invalidState operation session.state) := by
  unfold Session.expectState
  split
  next member => exact .inl ⟨member, rfl⟩
  next outside => exact .inr ⟨outside, rfl⟩

theorem initSession_cases (cameraId : String) (preview capture : OutputSurface)
    (world : ReplayWorld) :
    let answered := world.initSession cameraId preview capture
    (∃ error, answered.1 = .error error ∧ answered.2.captures = world.captures) ∨
      ∃ configuration, answered.1 = .ok configuration ∧ world.session.state = .uninitialized ∧
        answered.2.captures = { world.captures with state := .configuring } := by
  rcases expectState_cases world.session "init_session" [.uninitialized] with
    ⟨member, allowed⟩ | ⟨_, refused⟩
  · have uninitialized : world.session.state = .uninitialized := by simpa using member
    simp only [initSession, allowed]
    split
    · split
      · exact .inl ⟨_, rfl, rfl⟩
      · exact .inr ⟨_, rfl, uninitialized, rfl⟩
    · exact .inr ⟨_, rfl, uninitialized, rfl⟩
  · simp [initSession, refused]

private theorem startRelay_captures (world : ReplayWorld) :
    world.startRelay.2.captures = world.captures := by
  unfold startRelay
  split
  · split <;> rfl
  · rfl

private theorem startSession_cases (world : ReplayWorld) :
    (∃ error, world.startSession.1 = .error error ∧
        world.startSession.2.captures = world.captures) ∨
      world.startSession.1 = .ok () ∧ world.session.state = .configuring ∧
        world.startSession.2.captures =
          { world.captures with state := .active, sequencer := some {} } := by
  rcases expectState_cases world.session "on_capture_session_start" [.configuring] with
    ⟨member, allowed⟩ | ⟨_, refused⟩
  · have configuring : world.session.state = .configuring := by simpa using member
    have same := startRelay_captures world
    simp only [startSession, allowed]
    split
    next error after started =>
      rw [started] at same
      exact .inl ⟨error, rfl, same⟩
    next after started =>
      rw [started] at same
      refine .inr ⟨rfl, configuring, ?_⟩
      simp only [captures] at same ⊢
      injections
      simp [*]
  · simp [startSession, refused]

private theorem setParameters_cases (request : CaptureRequest) (world : ReplayWorld) :
    let answered := world.setParameters request
    (∃ error, answered.1 = .error error ∧ answered.2.captures = world.captures) ∨
      ∃ count parameters, answered.1 = .ok count ∧
        (SessionStep.operation (.setParameters request)).Stores world.session.context parameters ∧
        answered.2.captures =
          { world.captures with context := { world.session.context with parameters } } := by
  rcases expectState_cases world.session "set_parameters" [.configuring, .active] with
    ⟨_, allowed⟩ | ⟨_, refused⟩
  · simp only [setParameters, allowed]
    exact .inr ⟨_, _, rfl, ⟨request, rfl, rfl⟩, rfl⟩
  · simp [setParameters, refused]

end World

/-! ## Steps of a session are moves -/

def SessionStep.Moves (step : SessionStep) (world : ReplayWorld) : Prop :=
  let performed := step.perform world
  CaptureMove world.captures step performed.emitted performed.outcome performed.state.captures

namespace SessionStep

variable {world : ReplayWorld}

private theorem moves_initSession (cameraId : String) (preview capture : OutputSurface) :
    Moves (.operation (.initSession cameraId preview capture)) world := by
  simp only [Moves, perform, Operation.perform, Activity.bind_pure_apply, Activity.step_apply,
    Except.map]
  rcases World.initSession_cases cameraId preview capture world with
    ⟨error, failed, same⟩ | ⟨configuration, succeeded, uninitialized, after⟩
  · rw [failed, same]
    exact .stay (by simp [Reply.ofOutcome])
  · rw [succeeded, after]
    exact .configure uninitialized

private theorem moves_startSession : Moves (.operation .startSession) world := by
  simp only [Moves, perform, Operation.perform, Activity.bind_pure_apply, Activity.step_apply,
    Except.map]
  rcases World.startSession_cases world with
    ⟨error, failed, same⟩ | ⟨succeeded, configuring, after⟩
  · rw [failed, same]
    exact .stay (by simp [Reply.ofOutcome])
  · rw [succeeded, after]
    exact .bind configuring

private theorem moves_setParameters (request : CaptureRequest) :
    Moves (.operation (.setParameters request)) world := by
  simp only [Moves, perform, Operation.perform, Activity.bind_pure_apply, Activity.step_apply,
    Except.map]
  rcases World.setParameters_cases request world with
    ⟨error, failed, same⟩ | ⟨count, parameters, succeeded, stored, after⟩
  · rw [failed, same]
    exact .stay (by simp [Reply.ofOutcome])
  · rw [succeeded, after]
    exact .parametrize parameters stored

private theorem stay_of_bound {step : SessionStep} {sequencer : Sequencer}
    (bound : world.session.sequencer = some sequencer) {outcome : Except Fault Reply}
    (unstarted : ∀ id, outcome ≠ .ok (.started id)) :
    CaptureMove world.captures step [] outcome
      { world.captures with sequencer := some sequencer } := by
  have same : { world.captures with sequencer := some sequencer } = world.captures := by
    rw [← bound]
    rfl
  rw [same]
  exact .stay unstarted

private theorem moves_startRepeating (receiver : Receiver) :
    Moves (.operation (.startRepeating receiver)) world := by
  simp only [Moves, perform, Operation.perform, World.startRepeating, Activity.bind_pure_apply]
  rcases World.activeSequencer_cases world.session "start_repeating" with
    ⟨sequencer, active, bound, allowed⟩ | refused
  · rw [World.whileActive_eq allowed]
    rcases Nat.lt_or_ge SequenceId.limit sequencer.next with exhausted | room
    · rw [Sequencer.startRepeating_eq_of_exhausted exhausted]
      exact stay_of_bound bound (by simp [Reply.ofOutcome, Except.map])
    · cases rejecting : world.channel.rejecting with
      | true =>
          rw [Sequencer.startRepeating_eq_of_rejecting room rejecting]
          exact .refuse active bound rfl
      | false =>
          rw [Sequencer.startRepeating_eq room rejecting]
          exact .renew active bound room rfl
  · rw [World.whileActive_eq_of_error refused]
    exact .stay (by simp [Reply.ofOutcome, Except.map])

private theorem move_submitOne {step : SessionStep} {operation : String} {kind : RequestKind}
    (snapshot : CaptureContext → Snapshot) {receiver : Receiver} (once : kind ≠ .repeating)
    (asked : step.capture? world.session.context =
      some (kind, snapshot world.session.context, receiver)) :
    let performed := World.whileActive operation
      (fun context => Sequencer.submitOne kind (snapshot context) receiver) world
    CaptureMove world.captures step performed.emitted
      (performed.outcome.map (Reply.ofOutcome .started)) performed.state.captures := by
  rcases World.activeSequencer_cases world.session operation with
    ⟨sequencer, active, bound, allowed⟩ | refused
  · rw [World.whileActive_eq allowed]
    rcases Nat.lt_or_ge SequenceId.limit sequencer.next with exhausted | room
    · rw [Sequencer.submitOne_eq_of_exhausted exhausted]
      exact stay_of_bound bound (by simp [Reply.ofOutcome, Except.map])
    · cases rejecting : world.channel.rejecting with
      | true =>
          rw [Sequencer.submitOne_eq_of_rejecting room rejecting]
          exact .refuse active bound (Option.isSome_of_eq_some asked)
      | false =>
          rw [Sequencer.submitOne_eq room rejecting]
          exact .submit active bound room asked once
  · rw [World.whileActive_eq_of_error refused]
    exact .stay (by simp [Reply.ofOutcome, Except.map])

private theorem moves_startMultiFrame (receiver : Receiver) :
    Moves (.operation (.startMultiFrame receiver)) world := by
  simp only [Moves, perform, Operation.perform, World.startMultiFrame, Activity.bind_pure_apply]
  exact move_submitOne (fun context => context.parameters.snapshot) (by decide) rfl

private theorem moves_startTrigger (request : CaptureRequest) (receiver : Receiver) :
    Moves (.operation (.startTrigger request receiver)) world := by
  simp only [Moves, perform, Operation.perform, World.startTrigger, Activity.bind_pure_apply]
  exact move_submitOne (fun context => request.supported context.capabilities) (by decide) rfl

private theorem moves_stopRepeating : Moves (.operation .stopRepeating) world := by
  simp only [Moves, perform, Operation.perform, World.stopRepeating, Activity.bind_pure_apply]
  rcases World.activeSequencer_cases world.session "stop_repeating" with
    ⟨sequencer, active, bound, allowed⟩ | refused
  · rw [World.whileActive_eq allowed]
    cases recorded : sequencer.repeating with
    | none =>
        rw [Activity.bind_pure_apply, Sequencer.stopRepeating_eq_of_none recorded]
        exact stay_of_bound bound (by simp [Reply.ofOutcome, Except.map])
    | some id =>
        rw [Activity.bind_pure_apply, Sequencer.stopRepeating_eq_of_some recorded]
        exact .stop active bound (by simp [recorded])
  · rw [World.whileActive_eq_of_error refused]
    exact .stay (by simp [Reply.ofOutcome, Except.map])

private theorem moves_endSession
    (lively : world.session.state = .active → world.session.sequencer.isSome) :
    Moves (.operation .endSession) world := by
  simp only [Moves, perform, Operation.perform, Activity.bind_pure_apply]
  rcases World.expectState_cases world.session "on_capture_session_end" [.active] with
    ⟨member, _⟩ | ⟨_, refused⟩
  · have active : world.session.state = .active := by simpa using member
    obtain ⟨sequencer, bound⟩ := Option.isSome_iff_exists.mp (lively active)
    rw [World.endSession_eq active bound]
    exact .finish bound .ending (.inl rfl) world.session.context.parameters (.inl rfl)
  · simp only [World.endSession, Activity.bind_apply, Activity.read_apply, refused]
    exact .stay (by simp [Reply.ofOutcome, Except.map])

private theorem moves_deinitSession : Moves (.operation .deinitSession) world := by
  simp only [Moves, perform, Operation.perform, Activity.bind_pure_apply]
  by_cases done : world.session.state = .deinitialized
  · rw [World.deinitSession_eq_of_deinitialized done]
    exact .stay (by simp [Except.map])
  cases bound : world.session.sequencer with
  | none =>
      rw [World.deinitSession_eq_of_unbound done bound, World.captures_released]
      exact .release bound
  | some sequencer =>
      obtain ⟨after, told, outcome⟩ := World.captures_deinitSession done bound
      rw [after, told, outcome]
      exact .finish bound .deinitialized (.inr rfl) .empty (.inr rfl)

theorem moves_operation (lively : world.session.state = .active → world.session.sequencer.isSome)
    (operation : Operation) : Moves (.operation operation) world := by
  cases operation with
  | initSession cameraId preview capture => exact moves_initSession cameraId preview capture
  | startSession => exact moves_startSession
  | setParameters request => exact moves_setParameters request
  | startRepeating receiver => exact moves_startRepeating receiver
  | startMultiFrame receiver => exact moves_startMultiFrame receiver
  | startTrigger request receiver => exact moves_startTrigger request receiver
  | stopRepeating => exact moves_stopRepeating
  | endSession => exact moves_endSession lively
  | deinitSession => exact moves_deinitSession

variable (extent : world.session.context.capabilities.activeArray.HasExtent)

include extent in
private theorem moves_channel (step : ChannelStep) : Moves (.channel step) world := by
  have total := CaptureContext.hear_isTotal extent
  simp only [Moves, perform, Activity.bind_pure_apply, World.onChannel_eq]
  rcases step.cases_reports with ⟨rejecting, rfl⟩ | ⟨reports, about⟩ | ⟨reports, about⟩
  · exact .switch rejecting
  · cases running : world.channel.repeating with
    | none =>
        rw [ChannelStep.perform_eq_of_idle about running]
        exact .stay (by simp [Except.map])
    | some flight =>
        rw [ChannelStep.perform_eq_of_running total about running]
        exact @CaptureMove.frame world.captures _ _ _ about running
  · rw [ChannelStep.perform_eq_of_drain total about]
    exact @CaptureMove.drain world.captures _ _ about

private theorem move_onSurfaces (step : SessionStep) (change : Surfaces → Surfaces) :
    let performed := SurroundingStep.onSurfaces change world
    CaptureMove world.captures step performed.emitted performed.outcome
      performed.state.captures :=
  .stay (by simp [SurroundingStep.onSurfaces, Activity.bind_apply])

theorem moves_surroundings (step : SurroundingStep) : Moves (.surroundings step) world := by
  cases step with
  | produce source timestamp =>
      simp only [Moves, perform, SurroundingStep.perform, Activity.bind_pure_apply,
        Activity.step_apply, World.captures_produce]
      exact .stay (by simp [Except.map])
  | forward =>
      have same := @World.captures_forwardFrame world
      have stays : CaptureMove world.captures (.surroundings .forward) [] (.ok .done)
          world.forwardFrame.captures := same ▸ .stay (by simp)
      exact stays
  | allocate => exact move_onSurfaces _ _
  | failWriter failing => exact move_onSurfaces _ _
  | failSource failure => exact move_onSurfaces _ _
  | abandon output => exact move_onSurfaces _ _

include extent in
/-- Every step of a session is a move of its captures, as long as an active
session has a sequencer. -/
theorem captureMove (lively : world.session.state = .active → world.session.sequencer.isSome)
    (step : SessionStep) : step.Moves world := by
  cases step with
  | operation operation => exact moves_operation lively operation
  | channel step => exact moves_channel extent step
  | surroundings step => exact moves_surroundings step

end SessionStep

end EyesFree
