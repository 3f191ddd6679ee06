import EyesFree.Proofs.FrameAccount

namespace EyesFree

/-! The release of a session. It may come in any state and more than once, also when the
session is dropped. Whatever is held at that time is closed once, and it makes no difference
whether the captures of an active session were ended before. -/

namespace Passage.Phase

variable {origin outlet : Nat} {log : FrameLog} {passage : Passage}

private theorem source_closed (phase : passage.Phase origin outlet log) {source : Nat}
    {queue : FrameSource} (own : origin ≤ source)
    (found : passage.sources[source]? = some queue) :
    (passage.state ≠ .deinitialized → queue.closeCalls = 0) ∧
      (passage.state = .deinitialized →
        queue.closeCalls = 1 ∧ queue.closed = true ∧ queue.listened = false) := by
  have inside : source < passage.sources.length := (List.getElem?_eq_some_iff.mp found).1
  have only (sources : passage.sources.length = origin + 1) : source = origin := by omega
  cases phase with
  | vacant vacant =>
      have sources := vacant.sources
      omega
  | waiting waiting =>
      obtain rfl := only waiting.sources
      cases waiting.found.symm.trans found
      exact ⟨fun _ => waiting.unclosed, fun deinitialized => by
        cases deinitialized.symm.trans waiting.configuring⟩
  | relaying relaying =>
      obtain rfl := only relaying.sources
      cases relaying.found.symm.trans found
      exact ⟨fun _ => relaying.unclosed, fun deinitialized => absurd deinitialized relaying.living⟩
  | finished finished =>
      obtain rfl := only finished.sources
      cases finished.found.symm.trans found
      exact ⟨fun living => absurd finished.deinitialized living, fun _ =>
        ⟨finished.once, finished.closed, finished.silent⟩⟩

private theorem output_closed (phase : passage.Phase origin outlet log) {place : Nat}
    {output : Output} (own : outlet ≤ place) (found : passage.outputs[place]? = some output) :
    (passage.state ≠ .deinitialized → output.closeCalls = 0) ∧
      (passage.state = .deinitialized → output.closeCalls = 1) := by
  have inside : place < passage.outputs.length := (List.getElem?_eq_some_iff.mp found).1
  have only (outputs : passage.outputs.length = outlet + 1) : place = outlet := by omega
  cases phase with
  | vacant vacant =>
      have outputs := vacant.outputs
      omega
  | waiting waiting =>
      have outputs := waiting.outputs
      omega
  | relaying relaying =>
      obtain rfl := only relaying.outputs
      cases relaying.present.symm.trans found
      exact ⟨fun _ => relaying.writable, fun deinitialized => absurd deinitialized relaying.living⟩
  | finished finished =>
      cases finished.concluded with
      | unopened outputs => omega
      | closed present outputs once =>
          obtain rfl := only outputs
          cases present.symm.trans found
          exact ⟨fun living => absurd finished.deinitialized living, fun _ => once⟩

private theorem ready (phase : passage.Phase origin outlet log) {relay : Relay Frame}
    (attached : passage.relay = some relay) : relay.Ready := by
  cases phase with
  | vacant vacant => cases vacant.detached.symm.trans attached
  | waiting waiting => cases waiting.detached.symm.trans attached
  | relaying relaying =>
      cases relaying.attached.symm.trans attached
      exact relaying.ready
  | finished finished => cases finished.detached.symm.trans attached

end Passage.Phase

/-! ## Releasing and ending -/

/-- A session whose captures were ended, and that is not released yet. -/
def World.signaled (world : ReplayWorld) : ReplayWorld :=
  { world with session := { world.session with state := .ending } }

namespace SessionStep

variable {world : ReplayWorld}

private theorem perform_deinitSession_of_deinitialized
    (done : world.session.state = .deinitialized) :
    perform (.operation .deinitSession) world = ⟨world, [], .ok .done⟩ := by
  simp only [perform, Operation.perform, Activity.bind_pure_apply,
    World.deinitSession_eq_of_deinitialized done]
  rfl

private theorem perform_deinitSession_of_unbound (living : world.session.state ≠ .deinitialized)
    (unbound : world.session.sequencer = none) :
    perform (.operation .deinitSession) world = ⟨world.released, [], .ok .done⟩ := by
  simp only [perform, Operation.perform, Activity.bind_pure_apply,
    World.deinitSession_eq_of_unbound living unbound]
  rfl

private theorem perform_deinitSession_of_bound (living : world.session.state ≠ .deinitialized)
    {sequencer : Sequencer} (bound : world.session.sequencer = some sequencer) :
    perform (.operation .deinitSession) world =
      ⟨(World.endCapture world).state.released, (World.endCapture world).emitted,
        .ok .done⟩ := by
  have ended := World.endCapture_eq bound
  simp only [perform, Operation.perform, Activity.bind_pure_apply,
    World.deinitSession_eq_of_bound living (Option.isSome_of_eq_some bound),
    Activity.bind_of_ok ended, Activity.modify_apply, ended, List.append_nil]
  rfl

private theorem perform_endSession_of_bound (active : world.session.state = .active)
    {sequencer : Sequencer} (bound : world.session.sequencer = some sequencer) :
    perform (.operation .endSession) world =
      ⟨(World.endCapture world).state.signaled, (World.endCapture world).emitted,
        .ok .done⟩ := by
  simp only [perform, Operation.perform, Activity.bind_pure_apply,
    World.endSession_eq active bound, World.endCapture_eq bound]
  rfl

/-- After a release the session is released, whatever it was before. -/
theorem state_deinitSession (world : ReplayWorld) :
    (perform (.operation .deinitSession) world).state.session.state = .deinitialized := by
  by_cases done : world.session.state = .deinitialized
  · rw [perform_deinitSession_of_deinitialized done]
    exact done
  cases bound : world.session.sequencer with
  | none =>
      rw [perform_deinitSession_of_unbound done bound]
      rfl
  | some sequencer =>
      rw [perform_deinitSession_of_bound done bound]
      rfl

end SessionStep

private theorem PassageMove.deinitialized {world after : ReplayWorld} {step : SessionStep}
    (move : PassageMove world step after) (deinitialized : after.passage.state = .deinitialized) :
    world.passage.state = .deinitialized ∨ step = .operation .deinitSession := by
  cases move with
  | stay quiet same => exact .inl ((congrArg Passage.state same).symm.trans deinitialized)
  | abandon output same => exact .inl ((congrArg Passage.state same).symm.trans deinitialized)
  | configure quiet uninitialized same =>
      cases (congrArg Passage.state same).symm.trans deinitialized
  | prepare quiet uninitialized same =>
      cases (congrArg Passage.state same).symm.trans deinitialized
  | attach configuring chosen asked same =>
      cases (congrArg Passage.state same).symm.trans deinitialized
  | activate configuring absent same =>
      cases (congrArg Passage.state same).symm.trans deinitialized
  | signal active same => cases (congrArg Passage.state same).symm.trans deinitialized
  | release living same => exact .inr rfl
  | produce source timestamp =>
      exact .inl ((World.state_produce source timestamp).symm.trans deinitialized)
  | forward =>
      have same := congrArg Captures.state world.captures_forwardFrame
      exact .inl (same.symm.trans deinitialized)

namespace Passage.Custody

variable {capabilities : Capabilities} {config : SessionConfig} {surfaces : Surfaces}

private theorem deinitialized_iff (silent : ∀ queue ∈ surfaces.sources, queue.listened = false)
    (steps : List SessionStep) :
    let start := World.fresh capabilities config surfaces
    (stateAfter SessionStep.perform start steps).passage.state = .deinitialized ↔
      .operation .deinitSession ∈ steps := by
  refine @run_invariant _ _ _ _ SessionStep.perform (World.fresh capabilities config surfaces)
    (fun steps world _ => world.passage.state = .deinitialized ↔
      .operation .deinitSession ∈ steps) ?_ ?_ steps
  · simp [World.fresh, World.passage, Session.new]
  · intro steps step world released
    have custody := @run capabilities config surfaces silent steps
    constructor
    · intro deinitialized
      rcases (step.passageMove world).deinitialized deinitialized with before | last
      · exact List.mem_append_left _ (released.mp before)
      · rw [last]
        exact List.mem_concat_self
    · intro member
      rcases List.mem_append.mp member with earlier | last
      · have before := released.mpr earlier
        have rests := Rests.run before (custody.phase.detached before) [step]
        exact rests.deinitialized
      · rw [← List.mem_singleton.mp last]
        exact SessionStep.state_deinitSession world

end Passage.Custody

/-! ## Two ways to a release -/

def forwards (count : Nat) : List SessionStep := List.replicate count (.surroundings .forward)

namespace World

variable {world : ReplayWorld} {origin outlet : Nat} {log : FrameLog}

private theorem released_forwards (custody : world.passage.Custody origin outlet log)
    (count : Nat) :
    let after := stateAfter SessionStep.perform world (forwards count)
    after.released = world.released ∧ after.captures = world.captures ∧
      emittedBy SessionStep.perform world (forwards count) = [] := by
  induction count generalizing world log with
  | zero => exact ⟨rfl, rfl, rfl⟩
  | succ count induction =>
      obtain ⟨released, captures, emitted⟩ := induction custody.forward.toCustody
      have ready (relay : Relay Frame) (attached : world.session.relay = some relay) :
          relay.Ready := custody.phase.ready attached
      exact ⟨released.trans (released_forwardFrame ready),
        captures.trans world.captures_forwardFrame, emitted⟩

private theorem released_signaled (world : ReplayWorld) :
    world.signaled.released = world.released := by
  cases chosen : world.session.source with
  | none =>
      cases attached : world.session.relay <;>
        simp [released, signaled, closeSource, closeRelay, closeOutput, chosen, attached]
  | some source =>
      cases attached : world.session.relay <;>
        simp [released, signaled, closeSource, closeRelay, closeOutput, chosen, attached, stage]

/-- A release of an active session does what an end and a later release do. -/
theorem release_after_end (custody : world.passage.Custody origin outlet log)
    (active : world.session.state = .active) {sequencer : Sequencer}
    (bound : world.session.sequencer = some sequencer) (count : Nat) :
    let direct : List SessionStep := [.operation .deinitSession]
    let ended : List SessionStep :=
      .operation .endSession :: (forwards count ++ [.operation .deinitSession])
    stateAfter SessionStep.perform world ended = stateAfter SessionStep.perform world direct ∧
      emittedBy SessionStep.perform world ended = emittedBy SessionStep.perform world direct := by
  have signaling := SessionStep.perform_endSession_of_bound active bound
  have releasing := SessionStep.perform_deinitSession_of_bound (by simp [active]) bound
  have custodyBetween := custody.move (SessionStep.passageMove (.operation .endSession) world)
  rw [signaling] at custodyBetween
  let between := (endCapture world).state.signaled
  let after := stateAfter SessionStep.perform between (forwards count)
  obtain ⟨same, captures, silent⟩ := released_forwards custodyBetween.toCustody count
  have living : after.session.state ≠ .deinitialized := by
    rw [show after.session.state = .ending from congrArg Captures.state captures]
    simp
  have unbound : after.session.sequencer = none := by
    refine (congrArg Captures.sequencer captures).trans ?_
    rw [endCapture_eq bound]
    rfl
  have last := SessionStep.perform_deinitSession_of_unbound living unbound
  constructor
  · change stateAfter SessionStep.perform
      (SessionStep.perform (.operation .endSession) world).state _ =
        (SessionStep.perform (.operation .deinitSession) world).state
    rw [signaling, stateAfter_concat, last, releasing]
    exact same.trans (released_signaled _)
  · rw [emittedBy_cons, emittedBy_cons, signaling, emittedBy_concat, last, releasing, silent]
    rfl

private theorem release_again (world : ReplayWorld) :
    let once : List SessionStep := [.operation .deinitSession]
    let twice : List SessionStep := [.operation .deinitSession, .operation .deinitSession]
    stateAfter SessionStep.perform world twice = stateAfter SessionStep.perform world once ∧
      emittedBy SessionStep.perform world twice = emittedBy SessionStep.perform world once := by
  have done := SessionStep.state_deinitSession world
  have nothing := SessionStep.perform_deinitSession_of_deinitialized done
  constructor
  · simp only [stateAfter, nothing]
  · rw [emittedBy_cons, emittedBy_cons, nothing]
    rfl

end World

/-- Every source that a session makes and every output that it opens is closed once,
by the first release; a further release does nothing, and ending an active session
before changes nothing. -/
theorem released_once {capabilities : Capabilities} {config : SessionConfig}
    {surfaces : Surfaces} {steps : List SessionStep}
    (silent : ∀ queue ∈ surfaces.sources, queue.listened = false) :
    let world := stateAfter SessionStep.perform (World.fresh capabilities config surfaces) steps
    let release : SessionStep := .operation .deinitSession
    (stateAfter SessionStep.perform world [release, release] =
        stateAfter SessionStep.perform world [release] ∧
      emittedBy SessionStep.perform world [release, release] =
        emittedBy SessionStep.perform world [release]) ∧
    (world.session.state = .active → ∀ count,
      let ended := .operation .endSession :: (forwards count ++ [release])
      stateAfter SessionStep.perform world ended =
          stateAfter SessionStep.perform world [release] ∧
        emittedBy SessionStep.perform world ended =
          emittedBy SessionStep.perform world [release]) ∧
    (∀ source queue, surfaces.sources.length ≤ source →
      world.surfaces.source? source = some queue →
        (release ∉ steps → queue.closeCalls = 0) ∧
          (release ∈ steps →
            queue.closeCalls = 1 ∧ queue.closed = true ∧ queue.listened = false)) ∧
    (∀ place output, surfaces.outputs.length ≤ place →
      world.surfaces.output? place = some output →
        (release ∉ steps → output.closeCalls = 0) ∧
          (release ∈ steps → output.closeCalls = 1)) ∧
    (release ∈ steps → ∀ later,
      let last := stateAfter SessionStep.perform world later
      last.session.state = .deinitialized ∧
      (∀ source, (last.surfaces.source? source).map
          (fun queue => (queue.closeCalls, queue.closed, queue.listened)) =
        (world.surfaces.source? source).map
          fun queue => (queue.closeCalls, queue.closed, queue.listened)) ∧
      ∀ place, (last.surfaces.output? place).map (·.closeCalls) =
        (world.surfaces.output? place).map (·.closeCalls)) := by
  intro world release
  have custody := @Passage.Custody.run capabilities config surfaces silent steps
  have asked : world.session.state = .deinitialized ↔ release ∈ steps :=
    Passage.Custody.deinitialized_iff silent steps
  refine ⟨world.release_again, ?_, ?_, ?_, ?_⟩
  · intro active count
    have ledger := @Ledger.reached capabilities config surfaces steps
    obtain ⟨sequencer, bound⟩ := Option.isSome_iff_exists.mp (ledger.lively active)
    exact World.release_after_end custody active bound count
  · intro source queue own found
    obtain ⟨before, after⟩ := custody.phase.source_closed own found
    exact ⟨fun never => before (mt asked.mp never), fun once => after (asked.mpr once)⟩
  · intro place output own found
    obtain ⟨before, after⟩ := custody.phase.output_closed own found
    exact ⟨fun never => before (mt asked.mp never), fun once => after (asked.mpr once)⟩
  · intro once later
    have deinitialized := asked.mpr once
    have rests := Passage.Rests.run deinitialized (custody.phase.detached deinitialized) later
    exact ⟨rests.deinitialized, rests.sources, rests.outputs⟩

theorem released_once_hasty :
    let world := stateAfter SessionStep.perform World.ordinary hastyRelease
    (∃ queue, world.surfaces.source? 0 = some queue ∧
      queue.closeCalls = 1 ∧ queue.closed = true ∧ queue.listened = false) ∧
      ∃ output, world.surfaces.output? 0 = some output ∧ output.closeCalls = 1 := by
  intro world
  obtain ⟨_, _, sources, outputs, _⟩ :=
    @released_once (.eyesFree (.ofExtent 4000 3000)) ⟨4, "relay"⟩ {} hastyRelease
      (fun _ member => absurd member List.not_mem_nil)
  have asked : .operation .deinitSession ∈ hastyRelease := by decide
  have made : (world.surfaces.source? 0).isSome := by decide +kernel
  have opened : (world.surfaces.output? 0).isSome := by decide +kernel
  obtain ⟨queue, found⟩ := Option.isSome_iff_exists.mp made
  obtain ⟨output, present⟩ := Option.isSome_iff_exists.mp opened
  exact ⟨⟨queue, found, (sources 0 queue (Nat.zero_le 0) found).2 asked⟩,
    output, present, (outputs 0 output (Nat.zero_le 0) present).2 asked⟩

end EyesFree
