import EyesFree.Proofs.Progress

namespace EyesFree

/-! The end of a session. It aborts what is pending, in the order of submission, tells
nothing about the repeating request, and nothing is told to anyone afterwards. -/

/-! ## The order of what is pending -/

def Captures.InOrder (captures : Captures) (starts : List Start) : Prop :=
  (captures.channel.pending.map (·.client)).Sublist (starts.map Start.subscription)

private theorem Captures.InOrder.append {captures : Captures} {starts : List Start}
    (inOrder : captures.InOrder starts) (more : List Start) :
    captures.InOrder (starts ++ more) := by
  unfold InOrder
  rw [List.map_append]
  exact List.Sublist.trans inOrder (List.sublist_append_left _ _)

private theorem CaptureStep.inOrder {captures after : Captures} {step : SessionStep}
    {emitted : List Delivery} {outcome : Except Fault Reply}
    (next : CaptureStep captures step emitted outcome after) {starts : List Start}
    (inOrder : captures.InOrder starts) :
    after.InOrder (starts ++ (step.start? captures.context outcome).toList) := by
  have kept := inOrder.append (step.start? captures.context outcome).toList
  cases next with
  | cut remaining tells => exact (remaining.map _).trans kept
  | moved move =>
      cases move with
      | submit active bound room asked once =>
          rw [SessionStep.start?_of_started asked]
          unfold Captures.InOrder
          rw [ReplayChannel.enqueued_pending, List.map_append, List.map_append]
          exact List.Sublist.append inOrder (List.Sublist.refl _)
      | drain about => exact List.nil_sublist _
      | finish bound state later parameters => exact List.nil_sublist _
      | _ => exact kept

private theorem inOrder_run (capabilities : Capabilities) (config : SessionConfig)
    (surfaces : Surfaces) (steps : List SessionStep) :
    let fresh := World.fresh capabilities config surfaces
    (stateAfter SessionStep.perform fresh steps).captures.InOrder (acceptedStarts fresh steps) := by
  let fresh := World.fresh capabilities config surfaces
  have initial : fresh.captures.InOrder [] := List.Sublist.refl _
  refine run_invariant SessionStep.perform
    (motive := fun steps world _ => world.captures.InOrder (acceptedStarts fresh steps))
    initial ?_ steps
  intro steps step world inOrder
  have ledger := @Ledger.reached capabilities config surfaces steps
  rw [acceptedStarts_concat]
  exact (ledger.captureStep step).inOrder inOrder

/-! ## What the end tells -/

def Subscription.abortion (subscription : Subscription) : Delivery :=
  ⟨subscription.receiver, .sequenceAborted subscription.sequence⟩

private theorem Ledger.told_abort {capabilities : Capabilities} {starts : List Start}
    {captures : Captures} (ledger : Ledger capabilities starts captures) (context : CaptureContext)
    (ended : context.ended = true) :
    captures.flights.flatMap (ReplayChannel.toldAbort context.hear) =
      captures.channel.pending.map fun flight => flight.client.abortion := by
  have held : captures.channel.repeating.toList.flatMap
      (ReplayChannel.toldAbort context.hear) = [] := by
    rw [List.flatMap_eq_nil_iff]
    intro flight running
    have repeating := ledger.kind_of_running (Option.mem_toList.mp running)
    exact flight.told_hear_of_held repeating ended _
  have told : ∀ flight ∈ captures.channel.pending,
      ReplayChannel.toldAbort context.hear flight = [flight.client.abortion] := by
    intro flight pending
    have once := ledger.kind_of_pending pending
    have events : flight.client.events context.capabilities flight.request
        (.sequenceAborted flight.channelSequence) =
          .ok [.sequenceAborted flight.client.sequence] := rfl
    exact flight.told_hear (fun repeating => absurd repeating once) events
  rw [Captures.flights, List.flatMap_append, held, List.nil_append, List.flatMap_congr told,
    List.map_eq_flatMap]

private theorem World.captures_of_ending {world : ReplayWorld} {ending : Operation}
    (ends : ending = .endSession ∨ ending = .deinitSession)
    (active : world.session.state = .active) {sequencer : Sequencer}
    (bound : world.session.sequencer = some sequencer) :
    let performed := (SessionStep.operation ending).perform world
    performed.outcome = .ok .done ∧
      performed.emitted = world.captures.flights.flatMap
        (ReplayChannel.toldAbort { world.captures.context with ended := true }.hear) ∧
      ∃ state parameters, (state = .ending ∨ state = .deinitialized) ∧
        performed.state.captures = world.captures.finished state parameters := by
  rcases ends with rfl | rfl
  · simp only [SessionStep.perform, Operation.perform, Activity.bind_pure_apply,
      World.endSession_eq active bound]
    exact ⟨rfl, rfl, .ending, world.session.context.parameters, .inl rfl, rfl⟩
  · have living : world.session.state ≠ .deinitialized := by simp [active]
    obtain ⟨after, told, outcome⟩ := World.captures_deinitSession living bound
    simp only [SessionStep.perform, Operation.perform, Activity.bind_pure_apply, outcome, told]
    exact ⟨rfl, rfl, .deinitialized, .empty, .inr rfl, after⟩

/-! ## After the end -/

/-- The captures are closed: nothing is left in the channel, and nothing can be submitted. -/
structure Captures.Closed (captures : Captures) : Prop where
  later : captures.state = .ending ∨ captures.state = .deinitialized
  unbound : captures.sequencer = none
  vacant : captures.channel.repeating = none
  empty : captures.channel.pending = []

namespace Captures.Closed

private theorem finished (captures : Captures) {state : SessionState}
    (later : state = .ending ∨ state = .deinitialized) (parameters : Parameters) :
    (captures.finished state parameters).Closed :=
  ⟨later, rfl, rfl, rfl⟩

/-- Captures that are closed stay so, and nothing is told any more. -/
theorem step {captures after : Captures} {step : SessionStep} {emitted : List Delivery}
    {outcome : Except Fault Reply} (closed : captures.Closed)
    (next : CaptureStep captures step emitted outcome after) : emitted = [] ∧ after.Closed := by
  have bound {sequencer : Sequencer} : captures.sequencer ≠ some sequencer := by
    simp [closed.unbound]
  cases next with
  | cut remaining tells =>
      refine ⟨?_, { closed with empty := List.sublist_nil.mp (closed.empty ▸ remaining) }⟩
      rw [List.eq_nil_iff_forall_not_mem]
      intro delivery told
      obtain ⟨flight, carried, _⟩ := tells delivery told
      simp [closed.vacant, closed.empty] at carried
  | moved move =>
      cases move with
      | stay unstarted => exact ⟨rfl, closed⟩
      | configure uninitialized => exact absurd closed.later (by simp [uninitialized])
      | bind configuring => exact absurd closed.later (by simp [configuring])
      | parametrize parameters => exact ⟨rfl, { closed with }⟩
      | refuse active equal => exact absurd equal bound
      | renew active equal => exact absurd equal bound
      | submit active equal => exact absurd equal bound
      | stop active equal => exact absurd equal bound
      | switch rejecting => exact ⟨rfl, { closed with }⟩
      | frame about running => exact absurd running (by simp [closed.vacant])
      | drain about =>
          refine ⟨?_, { closed with empty := rfl }⟩
          rw [closed.empty]
          rfl
      | finish equal => exact absurd equal bound
      | release unbound => exact ⟨rfl, { closed with later := .inr rfl }⟩

private theorem silent {world : ReplayWorld} (closed : world.captures.Closed)
    (steps : List SessionStep) :
    emittedBy SessionStep.perform world steps = [] := by
  induction steps generalizing world with
  | nil => rfl
  | cons step rest induction =>
      have inactive : world.session.state = .active → world.session.sequencer.isSome := by
        intro active
        exact absurd closed.later (by simp [World.captures, active])
      obtain ⟨told, after⟩ := closed.step (step.captureStep inactive)
      rw [emittedBy_cons, told, List.nil_append]
      exact induction after

end Captures.Closed

/-! ## The end of a run -/

/-- However an active session is ended, each pending request hears once that it was
aborted, in the order of submission and through the callback of its start; the running
repeating request hears nothing, the channel is left empty, and whatever is done
afterwards, nobody hears anything. -/
theorem ending_aborts_pending (capabilities : Capabilities) (config : SessionConfig)
    (surfaces : Surfaces) (steps : List SessionStep) {ending : Operation}
    (ends : ending = .endSession ∨ ending = .deinitSession) :
    let fresh := World.fresh capabilities config surfaces
    let world := stateAfter SessionStep.perform fresh steps
    let pending := world.channel.pending
    let performed := (SessionStep.operation ending).perform world
    world.session.state = .active →
      (pending.map (·.client)).Sublist ((acceptedStarts fresh steps).map Start.subscription) ∧
        (pending.map (·.client.sequence)).Nodup ∧
        (∀ flight ∈ pending, flight.client.kind ≠ .repeating) ∧
        performed.outcome = .ok .done ∧
        performed.emitted = pending.map (fun flight =>
          ⟨flight.client.receiver, .sequenceAborted flight.client.sequence⟩) ∧
        (∀ flight, world.channel.repeating = some flight →
          eventsOf flight.client.sequence performed.emitted = []) ∧
        performed.state.channel.repeating = none ∧
        performed.state.channel.pending = [] ∧
        ∀ later, emittedBy SessionStep.perform performed.state later = [] := by
  intro fresh world pending performed active
  have ledger : Ledger capabilities (acceptedStarts fresh steps) world.captures :=
    Ledger.reached steps
  obtain ⟨sequencer, bound⟩ := Option.isSome_iff_exists.mp (ledger.lively active)
  obtain ⟨outcome, told, state, parameters, later, after⟩ :=
    World.captures_of_ending ends active bound
  rw [ledger.told_abort _ rfl] at told
  have closed : performed.state.captures.Closed := after ▸ .finished world.captures later parameters
  have inOrder := inOrder_run capabilities config surfaces steps
  refine ⟨inOrder, ledger.apart, fun _ => ledger.kind_of_pending, outcome, told, ?_, closed.vacant,
    closed.empty, fun later => closed.silent later⟩
  intro flight running
  apply eventsOf_eq_nil
  intro delivery member same
  rw [told] at member
  obtain ⟨other, otherPending, rfl⟩ := List.mem_map.mp member
  have apart := ledger.flights_apart
  rw [Captures.flights, show world.captures.channel.repeating = some flight from running,
    Option.toList_some, List.singleton_append, List.map_cons, List.nodup_cons] at apart
  exact apart.1 (List.mem_map.mpr ⟨other, otherPending, same⟩)

def outstanding : List SessionStep :=
  [.operation (.initSession "0" .absent .absent), .operation .startSession,
    .operation (.startRepeating "preview"), .operation (.startMultiFrame "still"),
    .channel (.fireRepeating 7), .operation (.startTrigger .empty "focus")]

theorem ending_aborts_pending_outstanding :
    (stateAfter SessionStep.perform World.ordinary outstanding).session.state = .active ∧
      ((stateAfter SessionStep.perform World.ordinary outstanding).channel.pending.map
        (·.client)) = [⟨⟨2⟩, .multiFrame, "still"⟩, ⟨⟨3⟩, .trigger, "focus"⟩] ∧
      let performed := (SessionStep.operation .endSession).perform
        (stateAfter SessionStep.perform World.ordinary outstanding)
      performed.emitted = [⟨"still", .sequenceAborted ⟨2⟩⟩, ⟨"focus", .sequenceAborted ⟨3⟩⟩] ∧
        ∀ later, emittedBy SessionStep.perform performed.state later = [] := by
  have active : (stateAfter SessionStep.perform World.ordinary outstanding).session.state =
      .active := by decide +kernel
  obtain ⟨_, _, _, _, _, _, _, _, silent⟩ := ending_aborts_pending
    (.eyesFree (.ofExtent 4000 3000)) ⟨4, "relay"⟩ {} outstanding (.inl rfl) active
  exact ⟨active, by decide +kernel, by decide +kernel, silent⟩

end EyesFree
