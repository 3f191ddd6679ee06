import EyesFree.Proofs.FrameArrival

namespace EyesFree

/-! Frames that wait in the source when a session starts. Nobody takes them out: as
every arrival moves the queue on by one frame, what waited at the start is what
every later arrival meets. -/

namespace Preview

/-- The source is open and the relay listens to it. -/
structure Live (preview : Preview) (source : Nat) (queue : FrameSource) (relay : Relay Frame) :
    Prop where
  chosen : preview.source = some source
  attached : preview.relay = some relay
  found : preview.sources[source]? = some queue
  listened : queue.listened = true
  opened : queue.closed = false
  holds : 0 < queue.capacity
  ready : relay.Ready

/-- The source was closed for good. -/
structure Released (preview : Preview) (source : Nat) : Prop where
  dismissed : preview.source = none
  detached : preview.relay = none
  closed : ∃ queue, preview.sources[source]? = some queue ∧ queue.closed = true

/-- Before a session is started its source is open, if it has one, and there is no relay. -/
structure Prepared (preview : Preview) : Prop where
  blank : preview.state = .uninitialized → preview.source = none
  detached : preview.state = .uninitialized ∨ preview.state = .configuring →
    preview.relay = none
  opened : preview.state = .configuring → ∀ source, preview.source = some source →
    preview.target.isSome ∧ ∃ queue, preview.sources[source]? = some queue ∧
      queue.closed = false ∧ 0 < queue.capacity

/-- After a session was started as many frames wait in its source as at the start, until
the source is closed. -/
structure Begun (source backlog : Nat) (preview : Preview) : Prop where
  started : preview.state ≠ .uninitialized ∧ preview.state ≠ .configuring
  waits : (∃ queue relay, preview.Live source queue relay ∧ queue.queue.length = backlog) ∨
    preview.Released source

end Preview

/-! ## Arrivals on any source -/

namespace World

variable {world : ReplayWorld} {source : Nat} {queue : FrameSource} {relay : Relay Frame}

private theorem relayFrame_eq_of_detached (detached : world.session.relay = none) :
    world.relayFrame source = world := by
  simp [relayFrame, detached]

theorem forwardFrame_eq_of_detached (detached : world.session.relay = none) :
    world.forwardFrame = world := by
  simp [forwardFrame, detached]

theorem produce_eq_of_detached (detached : world.session.relay = none)
    (found : world.surfaces.source? source = some queue) (timestamp : Timestamp) :
    (world.produce source timestamp).2 =
      { world with
        surfaces := world.surfaces.updateSource source fun _ => (queue.produce timestamp).2 } := by
  simp only [produce, found]
  split
  · exact relayFrame_eq_of_detached detached
  · rfl

theorem produce_eq_of_absent (absent : world.surfaces.source? source = none)
    (timestamp : Timestamp) : world.produce source timestamp = (false, world) := by
  simp [produce, absent]

theorem produce_eq_of_silent (found : world.surfaces.source? source = some queue)
    (silent : queue.listened = false) (timestamp : Timestamp) :
    (world.produce source timestamp).2 =
      { world with
        surfaces := world.surfaces.updateSource source fun _ => (queue.produce timestamp).2 } := by
  have unheard := (queue.listened_produce timestamp).trans silent
  simp [produce, found, unheard]

theorem state_produce (source : Nat) (timestamp : Timestamp) :
    (world.produce source timestamp).2.session.state = world.session.state :=
  congrArg Captures.state (captures_produce source timestamp)

theorem exists_oldest (queue : FrameSource) (timestamp : Timestamp) :
    ∃ oldest rest, queue.queue ++ [⟨timestamp, queue.size, queue.format⟩] = oldest :: rest ∧
      rest.length = queue.queue.length := by
  cases equal : queue.queue with
  | nil => exact ⟨_, [], rfl, rfl⟩
  | cons oldest rest => exact ⟨oldest, rest ++ [_], rfl, by simp⟩

private theorem live_produce (live : world.preview.Live source queue relay) (origin : Nat)
    (timestamp : Timestamp) :
    ∃ changed changedRelay,
      (world.produce origin timestamp).2.preview.Live source changed changedRelay ∧
        changed.queue.length = queue.queue.length := by
  have attached : world.session.relay = some relay := live.attached
  have found : world.surfaces.source? source = some queue := live.found
  by_cases same : origin = source
  · subst same
    cases room : queue.accepts with
    | false =>
        refine ⟨{ queue with produced := queue.produced + 1, released := queue.released + 1 },
          relay, ?_, rfl⟩
        rw [produce_eq_of_full found room]
        exact { live with found := Surfaces.source?_replace found _ }
    | true =>
        obtain ⟨oldest, rest, next, length⟩ := exists_oldest queue timestamp
        obtain ⟨_, session, passed, _⟩ :=
          produce_eq_of_room found attached live.ready live.listened room next
        refine ⟨queue.passed rest relay.busy, relay.arrived oldest, ?_, length⟩
        exact {
          chosen := (congrArg Session.source session).trans live.chosen
          attached := congrArg Session.relay session
          found := passed
          listened := live.listened
          opened := live.opened
          holds := live.holds
          ready := live.ready.arrived oldest }
  · cases other : world.surfaces.source? origin with
    | none =>
        rw [produce_eq_of_absent other]
        exact ⟨queue, relay, live, rfl⟩
    | some otherQueue =>
        have untouched (change : FrameSource → FrameSource) :
            (world.surfaces.updateSource origin change).source? source = some queue :=
          (Surfaces.source?_updateSource_ne same change _).trans found
        cases listened : otherQueue.listened with
        | false =>
            rw [produce_eq_of_silent other listened]
            exact ⟨queue, relay, { live with found := untouched _ }, rfl⟩
        | true =>
            cases room : otherQueue.accepts with
            | false =>
                rw [produce_eq_of_full other room]
                exact ⟨queue, relay, { live with found := untouched _ }, rfl⟩
            | true =>
                obtain ⟨oldest, rest, next, _⟩ := exists_oldest otherQueue timestamp
                obtain ⟨_, session, _, others⟩ :=
                  produce_eq_of_room other attached live.ready listened room next
                refine ⟨queue, relay.arrived oldest, ?_, rfl⟩
                exact { live with
                  chosen := (congrArg Session.source session).trans live.chosen
                  attached := congrArg Session.relay session
                  found := (others source same).trans found
                  ready := live.ready.arrived oldest }

private theorem live_forward (live : world.preview.Live source queue relay) :
    ∃ changed changedRelay, world.forwardFrame.preview.Live source changed changedRelay ∧
      changed.queue.length = queue.queue.length := by
  have attached : world.session.relay = some relay := live.attached
  have chosen : world.session.source = some source := live.chosen
  have ready : (world.stage relay).relay.Ready := live.ready
  obtain ⟨released, found⟩ :=
    @RelayStage.source?_forward (world.stage relay) source queue live.found source
  refine ⟨{ queue with released }, ((world.stage relay).forward source).relay, ?_, rfl⟩
  simp only [forwardFrame, attached, chosen]
  exact {
    chosen := live.chosen
    attached := rfl
    found := found
    listened := live.listened
    opened := live.opened
    holds := live.holds
    ready := RelayStage.ready_forward ready source }

private theorem sources_closeOutput (world : ReplayWorld) :
    world.closeOutput.surfaces.sources = world.surfaces.sources :=
  sources_closeInstalled _ _

private theorem released_of_live (live : world.preview.Live source queue relay) :
    world.released.preview.Released source := by
  have attached : world.session.relay = some relay := live.attached
  have chosen : world.session.source = some source := live.chosen
  have found : world.surfaces.source? source = some queue := live.found
  let closed := (queue.setListened false).close
  have isClosed : closed.closed = true := by
    simp [closed, FrameSource.close, FrameSource.setListened, live.opened]
  let between := world.closeSource
  have betweenFound : between.surfaces.source? source = some closed := by
    simp [between, closeSource, chosen, Surfaces.source?_updateSource_self, found, closed]
  have betweenRelay : between.session.relay = some relay := by
    simp [between, closeSource, chosen, attached]
  have betweenSource : between.session.source = some source := by
    simp [between, closeSource, chosen]
  obtain ⟨released, last⟩ := @RelayStage.source?_forward
    { between.stage relay with relay := relay.stopSending } source closed betweenFound source
  have shut : between.closeRelay.session.relay = none := by
    simp [closeRelay, betweenRelay, betweenSource]
  have shutFound : between.closeRelay.surfaces.source? source = some { closed with released } := by
    simp only [closeRelay, betweenRelay, betweenSource]
    exact last
  refine ⟨rfl, shut, { closed with released }, ?_, isClosed⟩
  change between.closeRelay.closeOutput.surfaces.sources[source]? = _
  rw [sources_closeOutput]
  exact shutFound

private theorem released_of_released (done : world.preview.Released source) :
    world.released.preview.Released source := by
  have dismissed : world.session.source = none := done.dismissed
  have detached : world.session.relay = none := done.detached
  have same : world.closeSource.closeRelay = world := by
    simp [closeSource, closeRelay, dismissed, detached]
  refine ⟨rfl, ?_, ?_⟩
  · change world.closeSource.closeRelay.closeOutput.session.relay = none
    rw [same]
    exact detached
  · change ∃ queue, world.closeSource.closeRelay.closeOutput.surfaces.sources[source]? = _ ∧ _
    rw [same, sources_closeOutput]
    exact done.closed

private theorem released_produce (done : world.preview.Released source) (origin : Nat)
    (timestamp : Timestamp) :
    (world.produce origin timestamp).2.preview.Released source := by
  have detached : world.session.relay = none := done.detached
  obtain ⟨queue, found, closed⟩ := done.closed
  cases other : world.surfaces.source? origin with
  | none =>
      rw [produce_eq_of_absent other]
      exact done
  | some otherQueue =>
      rw [produce_eq_of_detached detached other]
      refine ⟨done.dismissed, done.detached, ?_⟩
      by_cases same : origin = source
      · subst same
        refine ⟨(otherQueue.produce timestamp).2, Surfaces.source?_replace other _, ?_⟩
        rw [FrameSource.closed_produce]
        cases found.symm.trans other
        exact closed
      · exact ⟨queue, (Surfaces.source?_updateSource_ne same _ _).trans found, closed⟩

end World

/-! ## After the start -/

private theorem Preview.Begun.move {world after : ReplayWorld} {source backlog : Nat}
    (begun : Begun source backlog world.preview) (move : PreviewMove world after) :
    Begun source backlog after.preview := by
  obtain ⟨⟨initialized, configured⟩, waits⟩ := begun
  cases move with
  | stay same => exact same ▸ ⟨⟨initialized, configured⟩, waits⟩
  | configure uninitialized => exact absurd uninitialized initialized
  | prepare uninitialized => exact absurd uninitialized initialized
  | attach configuring => exact absurd configuring configured
  | activate configuring => exact absurd configuring configured
  | signal active same =>
      rw [same]
      refine ⟨by simp, ?_⟩
      rcases waits with ⟨queue, relay, live, length⟩ | done
      · exact .inl ⟨queue, relay, { live with }, length⟩
      · exact .inr { done with }
  | @release ended same released =>
      rw [← same] at waits
      rw [released]
      refine ⟨by simp [World.released, World.preview], .inr ?_⟩
      rcases waits with ⟨queue, relay, live, _⟩ | done
      · exact World.released_of_live live
      · exact World.released_of_released done
  | @produce origin timestamp same =>
      rw [same]
      refine ⟨?_, ?_⟩
      · change (world.produce origin timestamp).2.session.state ≠ _ ∧
          (world.produce origin timestamp).2.session.state ≠ _
        rw [World.state_produce]
        exact ⟨initialized, configured⟩
      · rcases waits with ⟨queue, relay, live, length⟩ | done
        · obtain ⟨changed, changedRelay, changedLive, same⟩ :=
            World.live_produce live origin timestamp
          exact .inl ⟨changed, changedRelay, changedLive, same.trans length⟩
        · exact .inr (World.released_produce done origin timestamp)
  | forward same =>
      rw [same]
      have state := congrArg Captures.state world.captures_forwardFrame
      refine ⟨?_, ?_⟩
      · change world.forwardFrame.captures.state ≠ _ ∧ world.forwardFrame.captures.state ≠ _
        rw [state]
        exact ⟨initialized, configured⟩
      · rcases waits with ⟨queue, relay, live, length⟩ | done
        · obtain ⟨changed, changedRelay, changedLive, same⟩ := World.live_forward live
          exact .inl ⟨changed, changedRelay, changedLive, same.trans length⟩
        · rw [World.forwardFrame_eq_of_detached done.detached]
          exact .inr done

/-! ## Before the start -/

private theorem Preview.Prepared.fresh (capabilities : Capabilities) (config : SessionConfig)
    (surfaces : Surfaces) : (World.fresh capabilities config surfaces).preview.Prepared where
  blank := fun _ => rfl
  detached := fun _ => rfl
  opened := by simp [World.fresh, World.preview, Session.new]

private theorem Preview.Prepared.of_late {preview : Preview}
    (late : ¬(preview.state = .uninitialized ∨ preview.state = .configuring)) :
    preview.Prepared where
  blank := fun uninitialized => absurd (.inl uninitialized) late
  detached := fun early => absurd early late
  opened := fun configuring => absurd (.inr configuring) late

private theorem Preview.Prepared.produce {world : ReplayWorld} (prepared : world.preview.Prepared)
    (early : world.session.state = .uninitialized ∨ world.session.state = .configuring)
    (origin : Nat) (timestamp : Timestamp) :
    (world.produce origin timestamp).2.preview.Prepared := by
  have detached : world.session.relay = none := prepared.detached early
  cases found : world.surfaces.source? origin with
  | none =>
      rw [World.produce_eq_of_absent found]
      exact prepared
  | some produced =>
      rw [World.produce_eq_of_detached detached found]
      refine ⟨prepared.blank, prepared.detached, ?_⟩
      intro configuring source chosen
      obtain ⟨target, queue, queueFound, opened, holds⟩ :=
        prepared.opened configuring source chosen
      by_cases same : origin = source
      · subst same
        cases found.symm.trans queueFound
        refine ⟨target, (produced.produce timestamp).2, Surfaces.source?_replace found _, ?_, ?_⟩
        · rw [FrameSource.closed_produce]
          exact opened
        · rw [FrameSource.capacity_produce]
          exact holds
      · exact ⟨target, queue, (Surfaces.source?_updateSource_ne same _ _).trans queueFound, opened,
          holds⟩

private theorem Preview.Prepared.move {world after : ReplayWorld}
    (prepared : world.preview.Prepared)
    (move : PreviewMove world after) : after.preview.Prepared := by
  cases move with
  | stay same => exact same ▸ prepared
  | configure uninitialized same =>
      rw [same]
      exact {
        blank := by simp
        detached := fun _ => prepared.detached (.inl uninitialized)
        opened := fun _ source chosen => by simp [prepared.blank uninitialized] at chosen }
  | prepare uninitialized same =>
      rw [same]
      refine ⟨by simp, fun _ => prepared.detached (.inl uninitialized), ?_⟩
      rintro _ source chosen
      cases chosen
      exact ⟨rfl, _, List.getElem?_concat_length, rfl, Nat.lt_of_lt_of_le Nat.zero_lt_one
        (Nat.le_max_right _ _)⟩
  | attach configuring chosen same =>
      rw [same]
      exact ⟨by simp [attached], by simp [attached], by simp [attached]⟩
  | activate configuring absent same =>
      rw [same]
      exact ⟨by simp, by simp, by simp⟩
  | signal active same =>
      rw [same]
      exact ⟨by simp, by simp, by simp⟩
  | release same released =>
      rw [released]
      exact ⟨by simp [World.released, World.preview], by simp [World.released, World.preview],
        by simp [World.released, World.preview]⟩
  | @produce origin timestamp same =>
      rw [same]
      by_cases early : world.session.state = .uninitialized ∨ world.session.state = .configuring
      · exact prepared.produce early origin timestamp
      · have state : (world.produce origin timestamp).2.preview.state = world.session.state :=
          World.state_produce origin timestamp
        exact .of_late (by rwa [state])
  | forward same =>
      rw [same]
      by_cases early : world.session.state = .uninitialized ∨ world.session.state = .configuring
      · rw [World.forwardFrame_eq_of_detached (prepared.detached early)]
        exact prepared
      · have state : world.forwardFrame.preview.state = world.session.state :=
          congrArg Captures.state world.captures_forwardFrame
        exact .of_late (by rwa [state])

/-! ## Runs -/

private theorem Relay.ready_initial {φ : Type} : Ready ({} : Relay φ) := ⟨rfl, rfl, rfl⟩

private theorem Preview.Prepared.start {world : ReplayWorld} (prepared : world.preview.Prepared)
    {source : Nat} (chosen : world.session.source = some source)
    (started : (SessionStep.perform (.operation .startSession) world).outcome = .ok .done) :
    let after := (SessionStep.perform (.operation .startSession) world).state
    ∃ queue, after.surfaces.source? source = some queue ∧
      Begun source queue.queue.length after.preview := by
  have outcome : Reply.ofOutcome (fun _ => .done) world.startSession.1 = .done :=
    Except.ok.inj started
  rcases World.startSession_preview world with
    ⟨error, failed, _⟩ | ⟨_, configuring, ⟨other, otherChosen, same⟩ | ⟨absent, _⟩⟩
  · rw [failed] at outcome
    cases outcome
  · cases chosen.symm.trans otherChosen
    obtain ⟨_, queue, found, opened, holds⟩ := prepared.opened configuring source chosen
    have listened : (world.startSession.2).preview.sources[source]? =
        some (queue.setListened true) := by
      rw [same]
      simp [attached, found]
    refine ⟨queue.setListened true, listened, ?_⟩
    refine ⟨?_, .inl ⟨queue.setListened true, {}, ?_, rfl⟩⟩
    · change (world.startSession.2).preview.state ≠ _ ∧ (world.startSession.2).preview.state ≠ _
      rw [same]
      simp [attached]
    · exact {
        chosen := (congrArg Preview.source same).trans chosen
        attached := congrArg Preview.relay same
        found := listened
        listened := rfl
        opened
        holds
        ready := Relay.ready_initial }
  · obtain ⟨target, _⟩ := prepared.opened configuring source chosen
    rcases absent with untargeted | unchosen
    · simp [untargeted] at target
    · cases chosen.symm.trans unchosen

/-- A frame that arrives goes to the relay itself: it enters the queue, a busy relay drops
it and an idle one takes it, and it does not stay in the queue. -/
def World.PassesOn (source : Nat) (timestamp : Timestamp) (world : ReplayWorld) : Prop :=
  ∃ queue relay, world.surfaces.source? source = some queue ∧ world.session.relay = some relay ∧
    let frame : Frame := ⟨timestamp, queue.size, queue.format⟩
    let produced := world.produce source timestamp
    produced.1 = true ∧ produced.2.session.relay = some (relay.arrived frame) ∧
      ∃ after, produced.2.surfaces.source? source = some after ∧ frame ∉ after.queue ∧
        after.released = queue.released + relay.busy.toNat

/-- Frames that arrive are passed on exactly when none waits. -/
theorem World.passesOn_iff {world : ReplayWorld} {source : Nat} {queue : FrameSource}
    {relay : Relay Frame} (live : world.preview.Live source queue relay) (timestamp : Timestamp) :
    world.PassesOn source timestamp ↔ queue.queue = [] := by
  have attached : world.session.relay = some relay := live.attached
  have found : world.surfaces.source? source = some queue := live.found
  constructor
  · rintro ⟨other, otherRelay, otherFound, _, entered, _, after, afterFound, left, _⟩
    cases found.symm.trans otherFound
    cases room : queue.accepts with
    | false =>
        rw [produce_eq_of_full found room] at entered
        cases entered
    | true =>
        obtain ⟨oldest, rest, next, _⟩ := exists_oldest queue timestamp
        obtain ⟨_, _, passed, _⟩ :=
          produce_eq_of_room found attached live.ready live.listened room next
        cases afterFound.symm.trans passed
        cases waiting : queue.queue with
        | nil => rfl
        | cons first others =>
            rw [waiting, List.cons_append] at next
            cases next
            exact absurd (List.mem_append_right _ (List.mem_singleton_self _)) left
  · intro empty
    have room : queue.accepts = true := by
      simp [FrameSource.accepts, live.opened, empty, live.holds]
    have next : queue.queue ++ [⟨timestamp, queue.size, queue.format⟩] =
        ⟨timestamp, queue.size, queue.format⟩ :: [] := by rw [empty, List.nil_append]
    obtain ⟨entered, session, passed, _⟩ :=
      produce_eq_of_room found attached live.ready live.listened room next
    exact ⟨queue, relay, found, attached, entered, congrArg Session.relay session, _, passed,
      List.not_mem_nil, rfl⟩

/-- As many frames wait in the source as when the session started. A frame that
arrives is passed on itself exactly when none waited; otherwise the oldest one is, or
none if the queue is full. -/
theorem produce_after_start {capabilities : Capabilities} {config : SessionConfig}
    {surfaces : Surfaces} {before after : List SessionStep} {source : Nat} {queue : FrameSource} :
    let fresh := World.fresh capabilities config surfaces
    let prior := stateAfter SessionStep.perform fresh before
    let beginning := (SessionStep.perform (.operation .startSession) prior).state
    let world := stateAfter SessionStep.perform beginning after
    prior.session.source = some source →
    (SessionStep.perform (.operation .startSession) prior).outcome = .ok .done →
    world.surfaces.source? source = some queue → queue.closed = false →
      ∃ waiting relay, beginning.surfaces.source? source = some waiting ∧
        queue.queue.length = waiting.queue.length ∧ world.session.relay = some relay ∧
        ∀ timestamp,
          let frame : Frame := ⟨timestamp, queue.size, queue.format⟩
          let produced := world.produce source timestamp
          (world.PassesOn source timestamp ↔ waiting.queue = []) ∧
          (queue.queue.length < queue.capacity → ∃ oldest rest,
            queue.queue ++ [frame] = oldest :: rest ∧ produced.1 = true ∧
              produced.2.session.relay = some (relay.arrived oldest) ∧
              produced.2.surfaces.source? source = some (queue.passed rest relay.busy)) ∧
          (queue.capacity ≤ queue.queue.length →
            produced.1 = false ∧ produced.2.session.relay = some relay ∧
              produced.2.surfaces.source? source = some { queue with
                produced := queue.produced + 1, released := queue.released + 1 }) := by
  intro fresh prior beginning world chosen started found opened
  have prepared : prior.preview.Prepared :=
    stateAfter_of_preserved SessionStep.perform (motive := fun world => world.preview.Prepared)
      (fun state step prepared => prepared.move (step.previewMove state))
      (Preview.Prepared.fresh capabilities config surfaces) before
  obtain ⟨waiting, waitingFound, begun⟩ := prepared.start chosen started
  have last : Preview.Begun source waiting.queue.length world.preview :=
    stateAfter_of_preserved SessionStep.perform
      (motive := fun world => world.preview.Begun source waiting.queue.length)
      (fun state step begun => begun.move (step.previewMove state)) begun after
  rcases last.waits with ⟨other, relay, live, length⟩ | released
  · cases found.symm.trans live.found
    refine ⟨waiting, relay, waitingFound, length, live.attached, ?_⟩
    intro timestamp frame produced
    refine ⟨?_, ?_, ?_⟩
    · rw [World.passesOn_iff live, ← List.length_eq_zero_iff, length, List.length_eq_zero_iff]
    · intro room
      have accepts : queue.accepts = true := by simp [FrameSource.accepts, opened, room]
      obtain ⟨oldest, rest, next, _⟩ := World.exists_oldest queue timestamp
      obtain ⟨entered, session, passed, _⟩ :=
        World.produce_eq_of_room found live.attached live.ready live.listened accepts next
      exact ⟨oldest, rest, next, entered, congrArg Session.relay session, passed⟩
    · intro full
      have refused : queue.accepts = false := by simp [FrameSource.accepts, full]
      have equal := World.produce_eq_of_full found refused timestamp
      refine ⟨congrArg Prod.fst equal, ?_, ?_⟩
      · exact (congrArg (fun answered => answered.2.session.relay) equal).trans live.attached
      · rw [show produced = _ from equal]
        exact Surfaces.source?_replace found _
  · obtain ⟨closedQueue, closedFound, closed⟩ := released.closed
    cases found.symm.trans closedFound
    rw [opened] at closed
    cases closed

def World.backlogged : ReplayWorld :=
  stateAfter SessionStep.perform World.ordinary
    [.operation (.initSession "0" (.of 7 ⟨640, 480⟩ .yuv420) .absent), .surroundings (.produce 0 1)]

/-- The session is started with a frame in its source. -/
def World.overdue : ReplayWorld :=
  (SessionStep.perform (.operation .startSession) World.backlogged).state

theorem produce_after_start_overdue :
    ∃ waiting relay, World.overdue.surfaces.source? 0 = some waiting ∧
      World.overdue.session.relay = some relay ∧ waiting.queue.length = 1 ∧
      ∀ timestamp, World.overdue.PassesOn 0 timestamp ↔ waiting.queue = [] := by
  have chosen : World.backlogged.session.source = some 0 := by decide +kernel
  have started : (SessionStep.perform (.operation .startSession) World.backlogged).outcome =
      .ok .done := by decide +kernel
  let queue : FrameSource :=
    { surface := 1000, size := ⟨640, 480⟩, format := .yuv420, capacity := 4
      queue := [⟨1, ⟨640, 480⟩, .yuv420⟩], listened := true, produced := 1 }
  have found : World.overdue.surfaces.source? 0 = some queue := by decide +kernel
  obtain ⟨waiting, relay, waitingFound, length, attached, arrivals⟩ :=
    @produce_after_start _ _ _ _ [] 0 queue chosen started found rfl
  exact ⟨waiting, relay, waitingFound, attached, length.symm, fun timestamp =>
    (arrivals timestamp).1⟩

/-- The frame that waited is passed on in place of the one that arrives. -/
theorem not_passesOn_overdue :
    (SessionStep.perform (.operation .startSession) World.backlogged).outcome = .ok .done ∧
      ¬World.overdue.PassesOn 0 2 := by
  refine ⟨by decide +kernel, ?_⟩
  rintro ⟨queue, _, found, _, _, _, after, afterFound, left, _⟩
  have same : (World.overdue.surfaces.source? 0).map (fun queue => (queue.size, queue.format)) =
      some (⟨640, 480⟩, .yuv420) := by decide +kernel
  have waits : ((World.overdue.produce 0 2).2.surfaces.source? 0).map (·.queue) =
      some [⟨2, ⟨640, 480⟩, .yuv420⟩] := by decide +kernel
  rw [found, Option.map_some, Option.some.injEq, Prod.mk.injEq] at same
  rw [afterFound, Option.map_some, Option.some.injEq] at waits
  rw [same.1, same.2, waits] at left
  exact left (List.mem_singleton_self _)

end EyesFree
