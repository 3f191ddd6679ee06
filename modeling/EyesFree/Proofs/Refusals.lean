import EyesFree.Proofs.Ledger

namespace EyesFree

/-! When an operation of a session is refused, and what a refusal leaves behind: the world
as it was, but for the id of a request that the channel rejected. -/

namespace Operation

def name : Operation → String
  | .initSession _ _ _ => "init_session"
  | .startSession => "on_capture_session_start"
  | .setParameters _ => "set_parameters"
  | .startRepeating _ => "start_repeating"
  | .startMultiFrame _ => "start_multi_frame_capture"
  | .startTrigger _ _ => "start_trigger"
  | .stopRepeating => "stop_repeating"
  | .endSession => "on_capture_session_end"
  | .deinitSession => "deinit_session"

def allowed : Operation → List SessionState
  | .initSession _ _ _ => [.uninitialized]
  | .startSession => [.configuring]
  | .setParameters _ => [.configuring, .active]
  | .deinitSession => Enumeration.values
  | _ => [.active]

def asksForCapture : Operation → Bool
  | .startRepeating _ => true
  | .startMultiFrame _ => true
  | .startTrigger _ _ => true
  | _ => false

end Operation

/-! ## Why an operation is refused in a state that allows it -/

inductive Refusal (world : ReplayWorld) : Operation → Error → ReplayWorld → Prop
  /-- No internal frame source can be made. The capture output was noted already. -/
  | sourceless {cameraId preview output error capture}
      (failing : world.surfaces.failSource = some error) :
      Refusal world (.initSession cameraId preview output) error
        { world with session := { world.session with capture } }
  /-- The preview output of the client cannot be opened. -/
  | unopened (message : String) : Refusal world .startSession (.surface message) world
  | exhausted {operation sequencer} (asks : operation.asksForCapture)
      (bound : world.session.sequencer = some sequencer)
      (used : SequenceId.limit < sequencer.next) :
      Refusal world operation Sequencer.exhaustion world
  | rejected {operation sequencer} (asks : operation.asksForCapture)
      (bound : world.session.sequencer = some sequencer)
      (room : sequencer.next ≤ SequenceId.limit) :
      Refusal world operation ReplayChannel.rejection
        { world with session := { world.session with sequencer := some sequencer.advanced } }

/-- The answer to an operation: it is not allowed in the state of the session, or it is
refused for another reason, or it is carried out. -/
inductive Operation.Answered (operation : Operation) (world : ReplayWorld) :
    Performed ReplayWorld Delivery Reply → Prop
  | misplaced (outside : world.session.state ∉ operation.allowed) :
      Answered operation world
        ⟨world, [], .ok (.refused (.invalidState operation.name world.session.state))⟩
  | refused {error after} (inside : world.session.state ∈ operation.allowed)
      (refusal : Refusal world operation error after) :
      Answered operation world ⟨after, [], .ok (.refused error)⟩
  | granted {after emitted reply} (inside : world.session.state ∈ operation.allowed)
      (unrefused : ∀ error, reply ≠ .refused error) :
      Answered operation world ⟨after, emitted, .ok reply⟩

namespace Operation

variable {world : ReplayWorld}

/-! ## Setting up -/

private theorem answered_initSession (cameraId : String) (preview capture : OutputSurface) :
    Answered (.initSession cameraId preview capture) world
      (perform (.initSession cameraId preview capture) world) := by
  simp only [perform, Activity.bind_pure_apply, Activity.step_apply, Except.map]
  rcases World.expectState_cases world.session "init_session" [.uninitialized] with
    ⟨inside, allowed⟩ | ⟨outside, refused⟩
  · simp only [World.initSession, allowed]
    split
    · cases failing : world.surfaces.failSource with
      | some error =>
          simp only [Surfaces.createSource, failing]
          exact .refused inside (.sourceless failing)
      | none =>
          simp only [Surfaces.createSource, failing]
          exact .granted inside (by simp [Reply.ofOutcome])
    · exact .granted inside (by simp [Reply.ofOutcome])
  · simp only [World.initSession, refused]
    exact .misplaced outside

private theorem startRelay_cases (world : ReplayWorld) :
    world.startRelay.1 = .ok () ∨
      ∃ message, world.startRelay = (.error (.surface message), world) := by
  unfold World.startRelay
  split
  next surface source _ _ =>
    cases failing : world.surfaces.failWriter with
    | true => exact .inr ⟨s!"surface {surface.toNat} is not valid", by
        simp [Surfaces.openOutput, failing]⟩
    | false => exact .inl (by simp [Surfaces.openOutput, failing])
  next => exact .inl rfl

private theorem answered_startSession :
    Answered .startSession world (perform .startSession world) := by
  simp only [perform, Activity.bind_pure_apply, Activity.step_apply, Except.map]
  rcases World.expectState_cases world.session "on_capture_session_start" [.configuring] with
    ⟨inside, allowed⟩ | ⟨outside, refused⟩
  · simp only [World.startSession, allowed]
    rcases startRelay_cases world with started | ⟨message, failed⟩
    · split
      next error after failed =>
        rw [failed] at started
        cases started
      next => exact .granted inside (by simp [Reply.ofOutcome])
    · rw [failed]
      exact .refused inside (.unopened message)
  · simp only [World.startSession, refused]
    exact .misplaced outside

private theorem answered_setParameters (request : CaptureRequest) :
    Answered (.setParameters request) world (perform (.setParameters request) world) := by
  simp only [perform, Activity.bind_pure_apply, Activity.step_apply, Except.map]
  rcases World.expectState_cases world.session "set_parameters" [.configuring, .active] with
    ⟨inside, allowed⟩ | ⟨outside, refused⟩
  · simp only [World.setParameters, allowed]
    exact .granted inside (by simp [Reply.ofOutcome])
  · simp only [World.setParameters, refused]
    exact .misplaced outside

/-! ## Captures -/

private theorem exists_call_of_asks {operation : Operation} (asks : operation.asksForCapture) :
    ∃ call : CaptureContext → Activity (Sequencer × ReplayChannel Subscription) Delivery
        (Except Error SequenceId),
      (∀ context (sequencer : Sequencer) channel,
        sequencer.Answers channel (call context (sequencer, channel))) ∧
      operation.allowed = [.active] ∧
      operation.perform = do
        return Reply.ofOutcome .started (← World.whileActive operation.name call) := by
  cases operation with
  | startRepeating receiver =>
      exact ⟨_, fun _ _ _ => Sequencer.answers_startRepeating receiver, rfl, rfl⟩
  | startMultiFrame receiver =>
      exact ⟨_, fun _ _ _ => Sequencer.answers_submitOne _ _ receiver, rfl, rfl⟩
  | startTrigger request receiver =>
      exact ⟨_, fun _ _ _ => Sequencer.answers_submitOne _ _ receiver, rfl, rfl⟩
  | _ => cases asks

private theorem activeSequencer_of_active (active : world.session.state = .active)
    {sequencer : Sequencer}
    (bound : world.session.sequencer = some sequencer) (operation : String) :
    world.session.activeSequencer operation = .ok sequencer := by
  simp [Session.activeSequencer, bound, active]

theorem perform_of_asks {operation : Operation} (asks : operation.asksForCapture)
    (active : world.session.state = .active) {sequencer : Sequencer}
    (bound : world.session.sequencer = some sequencer) :
    ∃ performed, sequencer.Answers world.channel performed ∧
      operation.perform world =
        ⟨{ world with
            session := { world.session with sequencer := some performed.state.1 }
            channel := performed.state.2 },
          performed.emitted, performed.outcome.map (Reply.ofOutcome .started)⟩ := by
  obtain ⟨call, answers, _, equal⟩ := exists_call_of_asks asks
  rw [equal, Activity.bind_pure_apply,
    World.whileActive_eq (activeSequencer_of_active active bound _)]
  exact ⟨_, answers _ _ _, rfl⟩

private theorem activeSequencer_of_inactive (inactive : world.session.state ≠ .active)
    (operation : String) : world.session.activeSequencer operation =
      .error (.invalidState operation world.session.state) := by
  rcases World.activeSequencer_cases world.session operation with ⟨_, active, _⟩ | refused
  · exact absurd active inactive
  · exact refused

theorem perform_of_asks_of_inactive {operation : Operation} (asks : operation.asksForCapture)
    (inactive : world.session.state ≠ .active) :
    operation.perform world =
      ⟨world, [], .ok (.refused (.invalidState operation.name world.session.state))⟩ := by
  obtain ⟨call, _, _, equal⟩ := exists_call_of_asks asks
  rw [equal, Activity.bind_pure_apply,
    World.whileActive_eq_of_error (activeSequencer_of_inactive inactive _)]
  rfl

section

variable (lively : world.session.state = .active → world.session.sequencer.isSome)
include lively

private theorem answered_of_asks {operation : Operation} (asks : operation.asksForCapture) :
    Answered operation world (operation.perform world) := by
  obtain ⟨_, _, allowed, _⟩ := exists_call_of_asks asks
  by_cases active : world.session.state = .active
  · have inside : world.session.state ∈ operation.allowed := by simp [allowed, active]
    obtain ⟨sequencer, bound⟩ := Option.isSome_iff_exists.mp (lively active)
    obtain ⟨performed, answers, equal⟩ := perform_of_asks asks active bound
    rw [equal]
    cases answers with
    | exhausted used =>
        have same : { world.session with sequencer := some sequencer } = world.session := by
          rw [← bound]
        simp only [same]
        exact .refused inside (.exhausted asks bound used)
    | rejected room rejecting => exact .refused inside (.rejected asks bound room)
    | accepted room accepting counted => exact .granted inside (by simp [Reply.ofOutcome])
  · rw [perform_of_asks_of_inactive asks active]
    exact .misplaced (by simp [allowed, active])

private theorem answered_stopRepeating :
    Answered .stopRepeating world (perform .stopRepeating world) := by
  simp only [perform, World.stopRepeating, Activity.bind_pure_apply]
  by_cases active : world.session.state = .active
  · obtain ⟨sequencer, bound⟩ := Option.isSome_iff_exists.mp (lively active)
    have inside : world.session.state ∈ [SessionState.active] := by simp [active]
    rw [World.whileActive_eq (activeSequencer_of_active active bound _), Activity.bind_pure_apply]
    cases recorded : sequencer.repeating with
    | none =>
        rw [Sequencer.stopRepeating_eq_of_none recorded]
        exact .granted inside (by simp [Reply.ofOutcome])
    | some id =>
        rw [Sequencer.stopRepeating_eq_of_some recorded]
        exact .granted inside (by simp [Reply.ofOutcome])
  · rw [World.whileActive_eq_of_error (activeSequencer_of_inactive active _)]
    exact .misplaced (by simp [Operation.allowed, active])

private theorem answered_endSession : Answered .endSession world (perform .endSession world) := by
  simp only [perform, Activity.bind_pure_apply]
  rcases World.expectState_cases world.session "on_capture_session_end" [.active] with
    ⟨inside, _⟩ | ⟨outside, refused⟩
  · have active : world.session.state = .active := by simpa using inside
    obtain ⟨sequencer, bound⟩ := Option.isSome_iff_exists.mp (lively active)
    rw [World.endSession_eq active bound]
    exact .granted inside (by simp [Reply.ofOutcome])
  · simp only [World.endSession, Activity.bind_apply, Activity.read_apply, refused]
    exact .misplaced outside

end

private theorem outcome_deinitSession (world : ReplayWorld) :
    (perform .deinitSession world).outcome = .ok .done := by
  simp only [perform, Activity.bind_pure_apply]
  by_cases done : world.session.state = .deinitialized
  · rw [World.deinitSession_eq_of_deinitialized done]
    rfl
  cases bound : world.session.sequencer with
  | none =>
      rw [World.deinitSession_eq_of_unbound done bound]
      rfl
  | some sequencer =>
      obtain ⟨_, _, outcome⟩ := World.captures_deinitSession done bound
      rw [outcome]
      rfl

theorem answered (lively : world.session.state = .active → world.session.sequencer.isSome)
    (operation : Operation) : Answered operation world (operation.perform world) := by
  cases operation with
  | initSession cameraId preview capture => exact answered_initSession cameraId preview capture
  | startSession => exact answered_startSession
  | setParameters request => exact answered_setParameters request
  | startRepeating receiver => exact answered_of_asks lively rfl
  | startMultiFrame receiver => exact answered_of_asks lively rfl
  | startTrigger request receiver => exact answered_of_asks lively rfl
  | stopRepeating => exact answered_stopRepeating lively
  | endSession => exact answered_endSession lively
  | deinitSession =>
      have outcome := outcome_deinitSession world
      rcases performed : perform .deinitSession world with ⟨after, emitted, answer⟩
      rw [performed] at outcome
      obtain rfl : answer = .ok .done := outcome
      exact .granted (Enumeration.complete _) (by simp)

end Operation

/-! ## What a refusal leaves behind -/

/-- The sequencer after an error: the id of a request that the channel rejected is lost. -/
def Sequencer.charged (error : Error) (sequencer : Sequencer) : Sequencer :=
  if error.isSubmissionRejected ∧ sequencer.next ≤ SequenceId.limit then sequencer.advanced
  else sequencer

private theorem Sequencer.map_charged {error : Error} (other : error.isSubmissionRejected = false)
    (sequencer : Option Sequencer) : sequencer.map (charged error) = sequencer := by
  have same : charged error = id := by
    funext sequencer
    simp [charged, other]
  rw [same, Option.map_id_fun, id_eq]

/-- A world after an error differs from the one before at most in its sequencer and
in the capture output. -/
def World.refused (error : Error) (capture : Option OutputSurface) (world : ReplayWorld) :
    ReplayWorld :=
  { world with session := { world.session with
      capture, sequencer := world.session.sequencer.map (Sequencer.charged error) } }

private theorem World.refused_of_other {error : Error}
    (other : error.isSubmissionRejected = false)
    (world : ReplayWorld) : world.refused error world.session.capture = world := by
  unfold refused
  rw [Sequencer.map_charged other]

private theorem Refusal.eq_refused {world after : ReplayWorld} {operation : Operation}
    {error : Error} (refusal : Refusal world operation error after)
    (inside : world.session.state ∈ operation.allowed)
    (early : world.session.state = .uninitialized → world.session.sequencer = none) :
    after = world.refused error after.session.capture := by
  cases refusal with
  | sourceless failing =>
      have unbound := early (by simpa [Operation.allowed] using inside)
      simp [World.refused, unbound]
  | unopened message => exact (World.refused_of_other rfl world).symm
  | exhausted asks bound used =>
      have same : Sequencer.charged Sequencer.exhaustion _ = _ := if_neg fun charged =>
        Nat.not_le.mpr used charged.2
      unfold World.refused
      rw [bound, Option.map_some, same, ← bound]
  | rejected asks bound room =>
      have charged : Sequencer.charged ReplayChannel.rejection _ = _ := if_pos ⟨rfl, room⟩
      unfold World.refused
      rw [bound, Option.map_some, charged]

private theorem Refusal.ne_invalidState {world after : ReplayWorld} {operation : Operation}
    {error : Error} (refusal : Refusal world operation error after)
    (genuine : ∀ name state, world.surfaces.failSource ≠ some (.invalidState name state))
    (name : String) (state : SessionState) : error ≠ .invalidState name state := by
  rintro rfl
  cases refusal with
  | sourceless failing => exact genuine name state failing

namespace Operation.Answered

variable {operation : Operation} {world : ReplayWorld}
  {performed : Performed ReplayWorld Delivery Reply} (answered : Answered operation world performed)
include answered

theorem exists_reply : ∃ reply, performed.outcome = .ok reply := by
  cases answered <;> exact ⟨_, rfl⟩

private theorem invalidState_iff
    (genuine : ∀ name state, world.surfaces.failSource ≠ some (.invalidState name state))
    (name : String) (state : SessionState) :
    performed.outcome = .ok (.refused (.invalidState name state)) ↔
      world.session.state ∉ operation.allowed ∧ name = operation.name ∧
        state = world.session.state := by
  cases answered with
  | misplaced outside => simp [outside, eq_comm]
  | refused inside refusal => simp [inside, refusal.ne_invalidState genuine name state]
  | granted inside unrefused => simp [inside, unrefused]

private theorem unchanged
    (early : world.session.state = .uninitialized → world.session.sequencer = none)
    {error : Error} (refused : performed.outcome = .ok (.refused error)) :
    performed.emitted = [] ∧
      performed.state = world.refused error performed.state.session.capture ∧
      (world.surfaces.failSource = none →
        performed.state.session.capture = world.session.capture) := by
  cases answered with
  | misplaced outside =>
      cases refused
      exact ⟨rfl, (World.refused_of_other rfl world).symm, fun _ => rfl⟩
  | refused inside refusal =>
      cases refused
      refine ⟨rfl, refusal.eq_refused inside early, ?_⟩
      intro working
      cases refusal with
      | sourceless failing => simp [working] at failing
      | _ => rfl
  | granted inside unrefused => exact absurd (Except.ok.inj refused) (unrefused error)

end Operation.Answered

/-- An operation is refused for the state of the session, under its own name, exactly in the
states that do not allow it, the release never; and an operation that is refused for
whatever reason tells nothing and leaves the world as it was, up to the id of a request that
the channel rejected. The capture output is noted before the internal frame source is made,
so that it stays if that fails. -/
theorem operation_refusal_atomic (capabilities : Capabilities) (config : SessionConfig)
    (surfaces : Surfaces) (steps : List SessionStep) (operation : Operation) :
    let world := stateAfter SessionStep.perform (World.fresh capabilities config surfaces) steps
    let performed := (SessionStep.operation operation).perform world
    (∃ reply, performed.outcome = .ok reply) ∧
      ((∀ name state, world.surfaces.failSource ≠ some (.invalidState name state)) →
        ∀ name state, performed.outcome = .ok (.refused (.invalidState name state)) ↔
          world.session.state ∉ operation.allowed ∧ name = operation.name ∧
            state = world.session.state) ∧
      (operation = .deinitSession → performed.outcome = .ok .done) ∧
      ∀ error, performed.outcome = .ok (.refused error) →
        performed.emitted = [] ∧
          performed.state = world.refused error performed.state.session.capture ∧
          (world.surfaces.failSource = none →
            performed.state.session.capture = world.session.capture) := by
  intro world performed
  have ledger : Ledger capabilities _ world.captures := Ledger.reached steps
  have answered : operation.Answered world performed := Operation.answered ledger.lively operation
  have early (uninitialized : world.session.state = .uninitialized) :
      world.session.sequencer = none := (ledger.early (.inl uninitialized)).1
  refine ⟨answered.exists_reply, answered.invalidState_iff, ?_, fun _ => answered.unchanged early⟩
  intro deinit
  subst deinit
  exact Operation.outcome_deinitSession world

def declining : List SessionStep :=
  [.operation (.initSession "0" .absent .absent), .operation .startSession,
    .operation (.startRepeating "preview"), .operation (.startMultiFrame "still"),
    .channel (.reject true)]

theorem operation_refusal_atomic_declining :
    let world := stateAfter SessionStep.perform World.ordinary declining
    let performed := (SessionStep.operation (.startRepeating "again")).perform world
    performed.outcome = .ok (.refused ReplayChannel.rejection) ∧
      performed.emitted = [] ∧
      performed.state.channel = world.channel ∧
      performed.state.session.sequencer = some ⟨4, some ⟨1⟩⟩ ∧
      ((SessionStep.operation .startSession).perform world).outcome =
        .ok (.refused (.invalidState "on_capture_session_start" .active)) := by
  intro world performed
  have active : world.session.state = .active := by decide +kernel
  have rejected : performed.outcome = .ok (.refused ReplayChannel.rejection) := by decide +kernel
  have working : world.surfaces.failSource = none := by decide +kernel
  have genuine (name : String) (state : SessionState) :
      world.surfaces.failSource ≠ some (.invalidState name state) := by simp [working]
  have outside : world.session.state ∉ Operation.startSession.allowed := by
    simp [active, Operation.allowed]
  obtain ⟨_, _, _, unchanged⟩ := operation_refusal_atomic (.eyesFree (.ofExtent 4000 3000))
    ⟨4, "relay"⟩ {} declining (.startRepeating "again")
  obtain ⟨silent, after, _⟩ := unchanged _ rejected
  obtain ⟨_, misplaced, _⟩ := operation_refusal_atomic (.eyesFree (.ofExtent 4000 3000))
    ⟨4, "relay"⟩ {} declining .startSession
  have channel := congrArg World.channel after
  exact ⟨rejected, silent, channel, by decide +kernel,
    (misplaced genuine _ _).mpr ⟨outside, rfl, active.symm⟩⟩

end EyesFree
