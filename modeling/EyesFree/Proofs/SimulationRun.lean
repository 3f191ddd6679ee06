import EyesFree.Program.Simulation
import EyesFree.Proofs.Provenance

namespace EyesFree

/-! A simulation is a run of its session: whatever it does to the session is what
some steps of the session do. So what holds of the events of every run holds of the
events of a simulation. -/

/-- A step that asks for no parameters, and that reports no other results than those of the
sensor that is simulated. -/
def SessionStep.IsRoutine (step : SessionStep) : Prop :=
  step.request? = none ∧
    ∀ result, step.result? = some result → ∃ timestamp, result = sampleResult timestamp

namespace Simulation

/-! ## Activities that only take steps of the session -/

/-- What an activity of a simulation does to the session is what routine steps do to it. -/
def IsRoutine {α : Type} (activity : Activity Simulation Delivery α) : Prop :=
  ∀ simulation, ∃ steps : List SessionStep, (∀ step ∈ steps, step.IsRoutine) ∧
    (activity simulation).state.world =
      stateAfter SessionStep.perform simulation.world steps ∧
    (activity simulation).emitted = emittedBy SessionStep.perform simulation.world steps

namespace IsRoutine

variable {α β : Type}

private theorem aside {activity : Activity Simulation Delivery α}
    (kept : ∀ simulation, (activity simulation).state.world = simulation.world)
    (silent : ∀ simulation, (activity simulation).emitted = []) : IsRoutine activity :=
  fun simulation => ⟨[], by simp, kept simulation, silent simulation⟩

private theorem pure (value : α) :
    IsRoutine (Pure.pure value) := .aside (fun _ => rfl) fun _ => rfl

private theorem read : IsRoutine Activity.read := .aside (fun _ => rfl) fun _ => rfl

private theorem require (computed : Except Fault α) : IsRoutine (Activity.require computed) :=
  .aside (fun _ => rfl) fun _ => rfl

private theorem modify {change : Simulation → Simulation}
    (kept : ∀ simulation, (change simulation).world = simulation.world) :
    IsRoutine (Activity.modify change) := .aside kept fun _ => rfl

private theorem bind {first : Activity Simulation Delivery α}
    {next : α → Activity Simulation Delivery β} (routine : IsRoutine first)
    (rest : ∀ value, IsRoutine (next value)) : IsRoutine (first >>= next) := by
  intro simulation
  obtain ⟨steps, allowed, world, emitted⟩ := routine simulation
  rw [Activity.bind_apply]
  rcases performed : first simulation with ⟨after, told, value | value⟩
  · rw [performed] at world emitted
    exact ⟨steps, allowed, world, emitted⟩
  · rw [performed] at world emitted
    obtain ⟨more, moreAllowed, moreWorld, moreEmitted⟩ := rest value after
    refine ⟨steps ++ more, ?_, ?_, ?_⟩
    · simpa [or_imp, forall_and] using ⟨allowed, moreAllowed⟩
    · rw [stateAfter_append, ← world]
      exact moreWorld
    · rw [emittedBy_append, ← world]
      exact congr (congrArg _ emitted) moreEmitted

private theorem onWorld {inner : Activity ReplayWorld Delivery α} (step : SessionStep)
    (routine : step.IsRoutine)
    (same : ∀ world, (step.perform world).state = (inner world).state ∧
      (step.perform world).emitted = (inner world).emitted) :
    IsRoutine (Simulation.onWorld inner) := by
  intro simulation
  obtain ⟨state, emitted⟩ := same simulation.world
  refine ⟨[step], by simpa using routine, state.symm, ?_⟩
  rw [emittedBy_cons, emittedBy_nil, List.append_nil, emitted]
  rfl

private theorem operation {inner : Activity ReplayWorld Delivery α} {operation : Operation}
    (routine : (SessionStep.operation operation).IsRoutine) {form : α → Reply}
    (performs : operation.perform = do return form (← inner)) :
    IsRoutine (Simulation.onWorld inner) :=
  .onWorld (.operation operation) routine fun world => by
    simp only [SessionStep.perform, performs, Activity.bind_pure_apply, and_self]

private theorem channel {inner : Hearing Subscription Delivery →
      Activity (ReplayChannel Subscription) Delivery α} {step : ChannelStep}
    (routine : (SessionStep.channel step).IsRoutine) {form : α → ChannelReply}
    (performs : ∀ hear, step.perform hear = do return form (← inner hear)) :
    IsRoutine (Simulation.onWorld (World.onChannel inner)) :=
  .onWorld (.channel step) routine fun world => by
    simp only [SessionStep.perform, World.onChannel_eq, performs, Activity.bind_pure_apply,
      and_self]

end IsRoutine

/-! ## The activities of a simulation -/

private theorem routine_start : IsRoutine start :=
  @IsRoutine.operation _ _ (.startRepeating simulationReceiver) ⟨rfl, nofun⟩ _ rfl

private theorem routine_fireRepeating (now : Timestamp) :
    IsRoutine (onWorld (World.onChannel fun hear => ReplayChannel.fireRepeating hear now)) := by
  have sampled : (SessionStep.channel (.fireRepeating now)).IsRoutine :=
    ⟨rfl, fun _ reported => ⟨now, (Option.some.inj reported).symm⟩⟩
  exact .channel sampled fun _ => rfl

private theorem routine_completePending (now : Timestamp) :
    IsRoutine (onWorld (World.onChannel fun hear => ReplayChannel.completePending hear now)) := by
  have sampled : (SessionStep.channel (.completePending now)).IsRoutine :=
    ⟨rfl, fun _ reported => ⟨now, (Option.some.inj reported).symm⟩⟩
  exact .channel sampled fun _ => rfl

private theorem routine_takeStill : IsRoutine takeStill := by
  refine .bind .read fun simulation => ?_
  split
  · exact .bind (@IsRoutine.operation _ _ (.startMultiFrame simulationReceiver) ⟨rfl, nofun⟩ _ rfl)
      fun outcome => .modify fun _ => rfl
  · exact .pure ()

private theorem routine_produceFrame (now : Timestamp) : IsRoutine (produceFrame now) := by
  refine .bind (.modify fun _ => rfl) fun _ => .bind .read fun simulation => .bind ?_ fun _ =>
    .bind (routine_fireRepeating now) fun _ => .bind (routine_completePending now) fun _ =>
    routine_takeStill
  refine .onWorld (.surroundings (.produce simulation.source now)) ⟨rfl, nofun⟩ fun world => ?_
  simp [SessionStep.perform, SurroundingStep.perform, Activity.bind_pure_apply]

private theorem routine_letForward (reading : Reading) : IsRoutine (letForward reading) := by
  unfold letForward
  split
  · exact .onWorld (.surroundings .forward) ⟨rfl, nofun⟩ fun world => ⟨rfl, rfl⟩
  · exact .pure ()

private theorem routine_advance (reading : Reading) : IsRoutine (advance reading) := by
  refine .bind (routine_letForward reading) fun _ => .bind .read fun simulation =>
    .bind (.require _) fun ticked => .bind (.modify fun _ => rfl) fun _ => ?_
  split
  · exact .bind (routine_produceFrame _) fun _ => .pure none
  · exact .bind (.require _) fun remaining => .pure (some remaining)

private theorem routine_finish (reading : Reading) : IsRoutine (finish reading) := by
  have stop : IsRoutine (onWorld World.stopRepeating) :=
    @IsRoutine.operation _ _ .stopRepeating ⟨rfl, nofun⟩ _ rfl
  have close : IsRoutine (onWorld World.endSession) :=
    @IsRoutine.operation _ _ .endSession ⟨rfl, nofun⟩ _ rfl
  have release : IsRoutine (onWorld World.deinitSession) :=
    @IsRoutine.operation _ _ .deinitSession ⟨rfl, nofun⟩ _ rfl
  refine .bind (routine_letForward reading) fun _ => .bind (routine_completePending _) fun _ =>
    .bind stop fun stopped => ?_
  split
  · exact .pure _
  · refine .bind close fun closed => ?_
    split
    · exact .pure _
    · exact .bind release fun _ => .pure _

private theorem routine_run (readings : List Reading) : IsRoutine (run readings) := by
  induction readings with
  | nil => exact .pure none
  | cons reading rest induction =>
      refine .bind .read fun simulation => ?_
      split
      · exact .bind (routine_finish reading) fun finished => .pure (some finished)
      · exact .bind (routine_advance reading) fun _ => induction

/-! ## The whole run -/

def fresh (arguments : SimulateArguments) (configured : Settings) : ReplayWorld :=
  .fresh (.eyesFree (arguments.settings configured.simulation).activeArray)
    (.ofSettings configured.session) {}

def opening (arguments : SimulateArguments) (configured : Settings) : List SessionStep :=
  let settings := arguments.settings configured.simulation
  let (previewSurface, surfaces) := ({} : Surfaces).allocate
  let (captureSurface, _) := surfaces.allocate
  [.surroundings .allocate, .surroundings .allocate,
    .operation (.initSession "0" (.of previewSurface settings.previewSize .yuv420)
      (.of captureSurface settings.captureSize .jpeg)),
    .operation .startSession, .operation (.setParameters arguments.parameters)]

variable {arguments : SimulateArguments} {configured : Settings} {simulation : Simulation}

theorem world_of_setUp (set : setUp arguments configured = .ok simulation) :
    simulation.world =
        stateAfter SessionStep.perform (fresh arguments configured)
          (opening arguments configured) ∧
      emittedBy SessionStep.perform (fresh arguments configured)
        (opening arguments configured) = [] := by
  obtain ⟨extension, _, _, _, _, _, _, _, _, _⟩ := arguments
  cases extension with
  | eyesFreeVideography =>
      cases set
      exact ⟨rfl, rfl⟩
  | unsupported => cases set

/-- What a simulation tells is what a run of its session tells: the steps by which it is set
up, and then routine steps. -/
theorem exists_steps (set : setUp arguments configured = .ok simulation)
    (readings : List Reading) :
    let started := start simulation
    let performed := run readings started.state
    ∃ steps, (∀ step ∈ steps, step.IsRoutine) ∧
      started.emitted ++ performed.emitted =
        emittedBy SessionStep.perform (fresh arguments configured)
          (opening arguments configured ++ steps) := by
  obtain ⟨world, silent⟩ := world_of_setUp set
  obtain ⟨first, firstRoutine, after, told⟩ := routine_start simulation
  obtain ⟨rest, restRoutine, _, more⟩ := routine_run readings (start simulation).state
  refine ⟨first ++ rest, by simpa [or_imp, forall_and] using ⟨firstRoutine, restRoutine⟩, ?_⟩
  rw [emittedBy_append, silent, List.nil_append, ← world, emittedBy_append, ← after, told, more]

theorem parameters_of_opening :
    acceptedStarts (fresh arguments configured) (opening arguments configured) = [] ∧
      (stateAfter SessionStep.perform (fresh arguments configured)
        (opening arguments configured)).captures.context.parameters =
          ⟨arguments.parameters⟩ := by
  refine ⟨rfl, ?_⟩
  have stored : (stateAfter SessionStep.perform (fresh arguments configured)
      (opening arguments configured)).captures.context.parameters =
      (Parameters.empty.set (fresh arguments configured).session.context.capabilities
        arguments.parameters).2 := rfl
  rw [stored]
  refine Parameters.set_empty_of_published fun key held => ?_
  revert held
  cases key <;> simp [SimulateArguments.parameters, Metadata.contains, Metadata.get_setSome, fresh,
    World.fresh, Session.new, Capabilities.eyesFree]

end Simulation

end EyesFree
