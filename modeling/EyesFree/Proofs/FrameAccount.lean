import EyesFree.Proofs.Custody

namespace EyesFree

/-! An account of the frames of a preview, at every moment of every run of a session. -/

namespace Passage

variable {world after ended : ReplayWorld} {origin outlet : Nat} {log : FrameLog}
  {passage : Passage}

/-! ## Steps -/

def Alone (origin : Nat) (passage : Passage) : Prop :=
  ∀ source queue, source ≠ origin → passage.sources[source]? = some queue →
    queue.listened = false

private theorem Alone.of_only {after : Passage} (alone : passage.Alone origin)
    (only : passage.OnlyAt origin after) : after.Alone origin :=
  fun source queue other found => alone source queue other ((only source other).symm.trans found)

structure Custody (origin outlet : Nat) (log : FrameLog) (passage : Passage) : Prop where
  phase : passage.Phase origin outlet log
  alone : passage.Alone origin

/-- A step to another passage in one of its phases, after which no counter is less. -/
structure Advance (origin outlet : Nat) (log : FrameLog) (passage after : Passage) : Prop extends
    Custody origin outlet log after where
  within : passage.stats.Within after.stats

private theorem next_of_same {after : Passage} (same : after.relay = passage.relay)
    (log : FrameLog) :
    log.next origin passage none after = log := by
  simp [FrameLog.next, producedOn, acceptedUntil_of_same same]

private theorem next_of_idle {after : Passage} (idle : after.underWay = []) (log : FrameLog) :
    log.next origin passage none after = log := by
  simp [FrameLog.next, producedOn, acceptedUntil_of_idle idle]

private theorem Custody.release (custody : world.passage.Custody origin outlet log)
    (living : world.session.state ≠ .deinitialized) :
    world.passage.Advance origin outlet (log.next origin world.passage none world.released.passage)
      world.released.passage := by
  have idle (detached : world.released.passage.relay = none) :
      log.next origin world.passage none world.released.passage = log :=
    next_of_idle (underWay_of_detached detached) log
  have unattached (detached : world.passage.relay = none)
      (phase : world.passage.released.Phase origin outlet log)
      (only : world.passage.OnlyAt origin world.passage.released) :
      world.passage.Advance origin outlet
        (log.next origin world.passage none world.released.passage) world.released.passage := by
    have released := World.passage_released_of_detached detached
    have same : world.passage.released.finalStats = world.passage.finalStats := by
      simp [Passage.released, detached]
    rw [idle (congrArg Passage.relay released), released]
    exact ⟨⟨phase, custody.alone.of_only only⟩,
      .of_eq (same.trans (stats_of_detached detached).symm)⟩
  cases custody.phase with
  | vacant vacant =>
      exact unattached vacant.detached (.vacant vacant.release)
        (.of_eq (by simp [Passage.released, vacant.sourceless]))
  | waiting waiting =>
      exact unattached waiting.detached (.finished waiting.release)
        (onlyAt_released waiting.chosen)
  | relaying relaying =>
      obtain ⟨changed, finished, within, only⟩ := World.relaying_released relaying
      rw [idle finished.detached]
      exact {
        phase := .finished finished
        within := by
          rw [stats_of_attached relaying.attached, stats_of_detached finished.detached]
          exact within
        alone := custody.alone.of_only only }
  | finished finished => exact absurd finished.deinitialized living

theorem Custody.forward (custody : world.passage.Custody origin outlet log) :
    world.passage.Advance origin outlet
      (log.next origin world.passage none world.forwardFrame.passage)
      world.forwardFrame.passage := by
  have still (detached : world.passage.relay = none) :
      world.passage.Advance origin outlet
        (log.next origin world.passage none world.forwardFrame.passage)
        world.forwardFrame.passage := by
    rw [World.forwardFrame_eq_of_detached detached, next_of_same rfl]
    exact { custody with within := .refl _ }
  cases custody.phase with
  | vacant vacant => exact still vacant.detached
  | waiting waiting => exact still waiting.detached
  | finished finished => exact still finished.detached
  | relaying relaying =>
      obtain ⟨changed, idle, offered, more, forwarded, empty, within, only⟩ :=
        World.relaying_forwardFrame relaying
      have nothing : world.forwardFrame.passage.underWay = [] := by
        rw [forwarded.underWay_eq, empty]
        rfl
      rw [next_of_idle nothing]
      exact {
        phase := .relaying forwarded
        within := by
          rw [stats_of_attached relaying.attached, stats_of_attached forwarded.attached]
          exact within
        alone := custody.alone.of_only only }

private theorem Custody.fill {queue : FrameSource}
    (custody : world.passage.Custody origin outlet log)
    (detached : world.passage.relay = none) (found : world.passage.sources[origin]? = some queue)
    (timestamp : Timestamp)
    (phase : (world.passage.replaced origin (queue.produce timestamp).2).Phase origin outlet
      { log with produced := log.produced ++ [⟨timestamp, queue.size, queue.format⟩] }) :
    let after := (world.produce origin timestamp).2.passage
    world.passage.Advance origin outlet
      (log.next origin world.passage (some (origin, timestamp)) after) after := by
  intro after
  have same : after = world.passage.replaced origin (queue.produce timestamp).2 :=
    World.passage_produce_of_unnoticed found (.inl detached) timestamp
  have unaccepted : world.passage.acceptedUntil after = [] :=
    acceptedUntil_of_same (by rw [same]; rfl)
  rw [FrameLog.next_of_unaccepted found timestamp unaccepted, same]
  exact ⟨⟨phase, custody.alone.of_only (.of_modify rfl)⟩, .refl _⟩

private theorem Custody.produce_self (custody : world.passage.Custody origin outlet log)
    (timestamp : Timestamp) :
    let after := (world.produce origin timestamp).2.passage
    world.passage.Advance origin outlet
      (log.next origin world.passage (some (origin, timestamp)) after) after := by
  cases custody.phase with
  | vacant vacant =>
      have none : world.passage.sources[origin]? = none :=
        List.getElem?_eq_none (Nat.le_of_eq vacant.sources)
      have same := World.produce_eq_of_absent none timestamp
      have nothing : log.next origin world.passage (some (origin, timestamp)) world.passage =
          log := by
        simp [FrameLog.next, producedOn, none, acceptedUntil_of_same]
      simp only [same, nothing]
      exact { custody with within := .refl _ }
  | waiting waiting =>
      exact custody.fill waiting.detached waiting.found timestamp
        (.waiting (waiting.produce timestamp))
  | relaying relaying =>
      obtain ⟨changed, changedRelay, arrived, within, only⟩ :=
        World.relaying_produce relaying timestamp
      exact {
        phase := .relaying arrived
        within := by
          rw [stats_of_attached relaying.attached, stats_of_attached arrived.attached]
          exact within
        alone := custody.alone.of_only only }
  | finished finished =>
      exact custody.fill finished.detached finished.found timestamp
        (.finished (finished.produce timestamp))

private theorem Custody.produce (custody : world.passage.Custody origin outlet log) (source : Nat)
    (timestamp : Timestamp) :
    let after := (world.produce source timestamp).2.passage
    world.passage.Advance origin outlet
      (log.next origin world.passage (some (source, timestamp)) after) after := by
  by_cases here : source = origin
  · subst here
    exact custody.produce_self timestamp
  intro after
  have quiet (same : after.relay = world.passage.relay) :
      log.next origin world.passage (some (source, timestamp)) after = log := by
    simp [FrameLog.next, producedOn_ne here, acceptedUntil_of_same same]
  cases found : world.surfaces.source? source with
  | none =>
      have same : after = world.passage := by
        simp only [after, World.produce_eq_of_absent found]
      rw [quiet (congrArg Passage.relay same), same]
      exact { custody with within := .refl _ }
  | some queue =>
      have silent : queue.listened = false := custody.alone source queue here found
      have same : after = world.passage.replaced source (queue.produce timestamp).2 :=
        World.passage_produce_of_unnoticed found (.inr (.inl silent)) timestamp
      rw [quiet (by rw [same]; rfl), same]
      refine ⟨⟨custody.phase.elsewhere here _, ?_⟩, .refl _⟩
      intro other changed away changedFound
      by_cases equal : source = other
      · subst equal
        have present : world.passage.sources[source]? = some queue := found
        simp only [Passage.replaced, List.getElem?_modify_eq, present, Option.map_eq_map,
          Option.map_some, Option.some.injEq] at changedFound
        rw [← changedFound]
        exact (queue.listened_produce timestamp).trans silent
      · exact custody.alone other changed away
          ((List.getElem?_modify_ne _ _ equal).symm.trans changedFound)

private theorem Advance.keep {after : Passage} (relay : after.relay = passage.relay)
    (finalStats : after.finalStats = passage.finalStats)
    (phase : after.Phase origin outlet log) (alone : after.Alone origin) :
    passage.Advance origin outlet (log.next origin passage none after) after := by
  rw [next_of_same relay]
  refine ⟨⟨phase, alone⟩, .of_eq ?_⟩
  unfold stats
  rw [relay, finalStats]

theorem Custody.move {step : SessionStep} (custody : world.passage.Custody origin outlet log)
    (move : PassageMove world step after) :
    world.passage.Advance origin outlet
      (log.next origin world.passage step.production? after.passage) after.passage := by
  cases move with
  | stay quiet same =>
      rw [same, quiet]
      exact .keep rfl rfl custody.phase custody.alone
  | abandon output same =>
      rw [same]
      exact .keep rfl rfl (custody.phase.abandon output) custody.alone
  | configure quiet uninitialized same =>
      have vacant := custody.phase.of_uninitialized uninitialized
      rw [same, quiet]
      exact .keep rfl rfl (.vacant { vacant with }) custody.alone
  | @prepare _ after surface size format maxImages asked quiet uninitialized same =>
      have vacant := custody.phase.of_uninitialized uninitialized
      rw [same, quiet]
      refine .keep rfl rfl (.waiting (vacant.prepare ..)) ?_
      intro source queue other found
      rcases Nat.lt_or_ge source world.passage.sources.length with before | new
      · exact custody.alone source queue other ((List.getElem?_append_left before).symm.trans found)
      · have last : queue = FrameSource.of surface size format maxImages :=
          List.mem_singleton.mp
            (List.mem_of_getElem? ((List.getElem?_append_right new).symm.trans found))
        rw [last]
        rfl
  | @attach after source surface configuring chosen asked same =>
      rcases custody.phase.of_configuring configuring with vacant | ⟨queue, waiting⟩
      · cases vacant.sourceless.symm.trans chosen
      · cases waiting.chosen.symm.trans chosen
        have idle : log.next origin world.passage
            (SessionStep.production? (.operation .startSession))
            (world.passage.attached origin surface) = log := next_of_idle rfl log
        rw [same, idle]
        exact {
          phase := .relaying (waiting.attach surface)
          alone := custody.alone.of_only (.of_modify rfl)
          within := by
            rw [stats_of_detached waiting.detached, waiting.uncounted]
            exact .zero _ }
  | activate configuring absent same =>
      rcases custody.phase.of_configuring configuring with vacant | ⟨queue, waiting⟩
      · rw [same]
        exact .keep rfl rfl (.vacant { vacant with }) custody.alone
      · have asked := waiting.asked
        rcases absent with none | none
        · rw [none] at asked
          cases asked
        · cases waiting.chosen.symm.trans none
  | signal active same =>
      rw [same]
      rcases custody.phase.of_active active with vacant | ⟨queue, relay, output, done, relaying⟩
      · exact .keep rfl rfl (.vacant { vacant with }) custody.alone
      · exact .keep rfl rfl (.relaying { relaying with running := .inr rfl }) custody.alone
  | release living same =>
      rw [← same] at custody ⊢
      exact custody.release fun done => living ((congrArg Passage.state same).symm.trans done)
  | produce source timestamp => exact custody.produce source timestamp
  | forward => exact custody.forward

/-! ## After the release -/

/-- What a passage that was released has in common with any later one. -/
structure Rests (passage after : Passage) : Prop where
  deinitialized : after.state = .deinitialized
  detached : after.relay = none
  finalStats : after.finalStats = passage.finalStats
  sources (source : Nat) :
    after.sources[source]?.map (fun queue => (queue.closeCalls, queue.closed, queue.listened)) =
      passage.sources[source]?.map fun queue => (queue.closeCalls, queue.closed, queue.listened)
  outputs (output : Nat) :
    after.outputs[output]?.map (·.closeCalls) = passage.outputs[output]?.map (·.closeCalls)

theorem Phase.detached (phase : passage.Phase origin outlet log)
    (deinitialized : passage.state = .deinitialized) : passage.relay = none := by
  cases phase with
  | vacant vacant => exact vacant.detached
  | waiting waiting => exact waiting.detached
  | relaying relaying => exact absurd deinitialized relaying.living
  | finished finished => exact finished.detached

private theorem Rests.produce {passage : Passage} (rests : passage.Rests world.passage)
    (source : Nat)
    (timestamp : Timestamp) : passage.Rests (world.produce source timestamp).2.passage := by
  cases found : world.surfaces.source? source with
  | none =>
      rw [World.produce_eq_of_absent found]
      exact rests
  | some queue =>
      have present : world.passage.sources[source]? = some queue := found
      rw [World.passage_produce_of_unnoticed found (.inl rests.detached)]
      refine { rests with sources := fun other => ?_ }
      rw [← rests.sources other]
      by_cases same : source = other
      · subst same
        simp [replaced, present, queue.closeCalls_produce, queue.closed_produce,
          queue.listened_produce]
      · simp [replaced, List.getElem?_modify_ne _ _ same]

private theorem Rests.move {passage : Passage} {step : SessionStep}
    (rests : passage.Rests world.passage) (move : PassageMove world step after) :
    passage.Rests after.passage := by
  have deinitialized := rests.deinitialized
  cases move with
  | stay _ same => exact same ▸ rests
  | abandon output same =>
      rw [same]
      refine { rests with outputs := fun other => ?_ }
      rw [← rests.outputs other]
      by_cases given : output = other
      · subst given
        simp [abandoned, Function.comp_def]
      · simp [abandoned, List.getElem?_modify_ne _ _ given]
  | configure _ uninitialized => cases deinitialized.symm.trans uninitialized
  | prepare _ uninitialized => cases deinitialized.symm.trans uninitialized
  | attach configuring => cases deinitialized.symm.trans configuring
  | activate configuring => cases deinitialized.symm.trans configuring
  | signal active => cases deinitialized.symm.trans active
  | release living => exact absurd deinitialized living
  | produce source timestamp => exact rests.produce source timestamp
  | forward =>
      rw [World.forwardFrame_eq_of_detached rests.detached]
      exact rests

end Passage

/-! ## Runs -/

def frameLog (origin : Nat) (world : ReplayWorld) (steps : List SessionStep) : FrameLog where
  produced := notedBy SessionStep.perform
    (fun world step => world.passage.producedOn origin step.production?) world steps
  accepted := notedBy SessionStep.perform
    (fun world step => world.passage.acceptedUntil (step.perform world).state.passage) world steps

private theorem frameLog_concat (origin : Nat) (world : ReplayWorld) (steps : List SessionStep)
    (step : SessionStep) :
    let last := stateAfter SessionStep.perform world steps
    frameLog origin world (steps ++ [step]) =
      (frameLog origin world steps).next origin last.passage step.production?
        (step.perform last).state.passage := by
  simp [frameLog, FrameLog.next, notedBy_concat]

namespace Passage.Custody

variable {capabilities : Capabilities} {config : SessionConfig} {surfaces : Surfaces}

private theorem fresh (capabilities : Capabilities) (config : SessionConfig)
    (silent : ∀ queue ∈ surfaces.sources, queue.listened = false) :
    (World.fresh capabilities config surfaces).passage.Custody surfaces.sources.length
      surfaces.outputs.length {} where
  phase := .vacant ⟨rfl, rfl, rfl, rfl, rfl, rfl, rfl⟩
  alone := fun _ queue _ found => silent queue (List.mem_of_getElem? found)

theorem run (silent : ∀ queue ∈ surfaces.sources, queue.listened = false)
    (steps : List SessionStep) :
    let start := World.fresh capabilities config surfaces
    (stateAfter SessionStep.perform start steps).passage.Custody surfaces.sources.length
      surfaces.outputs.length (frameLog surfaces.sources.length start steps) := by
  refine run_invariant SessionStep.perform
    (motive := fun steps world _ => world.passage.Custody surfaces.sources.length
      surfaces.outputs.length
      (frameLog surfaces.sources.length (World.fresh capabilities config surfaces) steps))
    (fresh capabilities config silent) ?_ steps
  intro steps step world custody
  rw [frameLog_concat]
  exact (custody.move (step.passageMove world)).toCustody

private theorem within {world : ReplayWorld} {origin outlet : Nat} {log : FrameLog}
    (custody : world.passage.Custody origin outlet log) (steps : List SessionStep) :
    world.passage.stats.Within (stateAfter SessionStep.perform world steps).passage.stats := by
  have kept := stateAfter_of_preserved SessionStep.perform
    (motive := fun after => world.passage.stats.Within after.passage.stats ∧
      ∃ log, after.passage.Custody origin outlet log)
    ?_ ⟨.refl _, log, custody⟩ steps
  · exact kept.1
  · rintro after step ⟨within, log, custody⟩
    have advance := custody.move (step.passageMove after)
    exact ⟨within.trans advance.within, _, advance.toCustody⟩

end Passage.Custody

theorem Passage.Rests.run {world : ReplayWorld}
    (deinitialized : world.passage.state = .deinitialized)
    (detached : world.passage.relay = none) (steps : List SessionStep) :
    world.passage.Rests (stateAfter SessionStep.perform world steps).passage :=
  stateAfter_of_preserved SessionStep.perform
    (motive := fun after => world.passage.Rests after.passage)
    (fun after step rests => rests.move (step.passageMove after))
    ⟨deinitialized, detached, rfl, fun _ => rfl, fun _ => rfl⟩ steps

/-! ## The account -/

namespace Passage.Phase

variable {origin outlet : Nat} {log : FrameLog} {passage : Passage}

private theorem chosen (phase : passage.Phase origin outlet log) :
    (∀ source, passage.source = some source → source = origin) ∧
      ∀ output, passage.slot.installed = some output → output = outlet := by
  cases phase with
  | vacant vacant => simp [vacant.sourceless, vacant.uninstalled]
  | waiting waiting => simp [waiting.chosen, waiting.uninstalled]
  | relaying relaying => simp [relaying.chosen, relaying.installed]
  | finished finished => simp [finished.sourceless, finished.uninstalled]

private theorem balanced (phase : passage.Phase origin outlet log) {queue : FrameSource}
    (found : passage.sources[origin]? = some queue) :
    queue.Balanced log passage.underWay ∧
      (passage.state = .deinitialized → queue.queue = [] ∧ passage.underWay = []) := by
  cases phase with
  | vacant vacant =>
      have none : passage.sources[origin]? = none :=
        List.getElem?_eq_none (Nat.le_of_eq vacant.sources)
      cases none.symm.trans found
  | waiting waiting =>
      cases waiting.found.symm.trans found
      rw [underWay_of_detached waiting.detached]
      refine ⟨waiting.balanced, fun deinitialized => ?_⟩
      cases deinitialized.symm.trans waiting.configuring
  | relaying relaying =>
      cases relaying.found.symm.trans found
      rw [relaying.underWay_eq]
      exact ⟨relaying.balanced, fun deinitialized => absurd deinitialized relaying.living⟩
  | finished finished =>
      cases finished.found.symm.trans found
      rw [underWay_of_detached finished.detached]
      exact ⟨finished.balanced, fun _ => ⟨finished.empty, rfl⟩⟩

private theorem settled_of_unopened (detached : passage.relay = none)
    (uncounted : passage.finalStats = {}) (outputs : passage.outputs.length = outlet)
    (unaccepted : log.accepted = []) :
    log.Settled passage.underWay passage.stats
      (passage.outputs[outlet]?.getD { surface := 0 }) [] := by
  have none : passage.outputs[outlet]? = none := List.getElem?_eq_none (Nat.le_of_eq outputs)
  rw [underWay_of_detached detached, stats_of_detached detached, uncounted, none]
  exact ⟨unaccepted, rfl, rfl, rfl, fun _ _ member => absurd member List.not_mem_nil⟩

/-- Frames of the relay and of the output, at any moment. -/
theorem settled (phase : passage.Phase origin outlet log) :
    ∃ done, log.Settled passage.underWay passage.stats
      (passage.outputs[outlet]?.getD { surface := 0 }) done := by
  cases phase with
  | vacant vacant =>
      exact ⟨[], settled_of_unopened vacant.detached vacant.uncounted vacant.outputs
        (by rw [vacant.unlogged])⟩
  | waiting waiting =>
      exact ⟨[], settled_of_unopened waiting.detached waiting.uncounted waiting.outputs
        waiting.unaccepted⟩
  | relaying relaying =>
      rw [relaying.underWay_eq, stats_of_attached relaying.attached, relaying.present]
      exact ⟨_, relaying.settled⟩
  | finished finished =>
      cases finished.concluded with
      | unopened outputs uncounted unaccepted =>
          exact ⟨[], settled_of_unopened finished.detached uncounted outputs unaccepted⟩
      | closed present outputs once settled =>
          rw [underWay_of_detached finished.detached, stats_of_detached finished.detached, present]
          exact ⟨_, settled⟩

private theorem order (phase : passage.Phase origin outlet log) :
    log.accepted.Sublist log.produced := by
  have fewer {queue : FrameSource} {held : List Frame} (balanced : queue.Balanced log held) :
      log.accepted.Sublist log.produced :=
    (List.sublist_append_left _ _).trans balanced.order
  cases phase with
  | vacant vacant => rw [vacant.unlogged]
  | waiting waiting => exact fewer waiting.balanced
  | relaying relaying => exact fewer relaying.balanced
  | finished finished => exact fewer finished.balanced

end Passage.Phase

/-- Every frame that is produced for a preview is accounted for at every moment of a run,
and no frame that was accepted is lost or refused because of a release. -/
theorem frames_accounted {capabilities : Capabilities} {config : SessionConfig}
    {surfaces : Surfaces} {steps later : List SessionStep}
    (silent : ∀ queue ∈ surfaces.sources, queue.listened = false) :
    let fresh := World.fresh capabilities config surfaces
    let world := stateAfter SessionStep.perform fresh steps
    let last := stateAfter SessionStep.perform world later
    let log := frameLog surfaces.sources.length fresh steps
    let underWay := world.passage.underWay
    let output? := world.surfaces.output? surfaces.outputs.length
    let queued := (output?.map (·.queued)).getD []
    let stats := world.session.relayStats
    (∀ source, world.session.source = some source → source = surfaces.sources.length) ∧
    (∀ output, world.session.slot.installed = some output → output = surfaces.outputs.length) ∧
    underWay.length ≤ 1 ∧
    (∀ queue, world.surfaces.source? surfaces.sources.length = some queue →
      queue.produced = log.produced.length ∧
      queue.produced = queue.released + queue.queue.length + underWay.length ∧
      (world.session.state = .deinitialized → queue.produced = queue.released)) ∧
    (∃ done : List (Frame × Bool),
      log.accepted = done.map (·.1) ++ underWay ∧ log.accepted.Sublist log.produced ∧
      queued = (done.filter (·.2)).map (·.1.timestamp) ∧
      stats.forwarded = queued.length ∧ stats.failed = (done.filter (!·.2)).length ∧
      ((∀ output, output? = some output → output.abandoned = false) → stats.failed = 0)) ∧
    stats.Within last.session.relayStats ∧
    (world.session.state = .deinitialized →
      underWay = [] ∧ last.session.relayStats = stats) := by
  intro fresh world last log underWay output? queued stats
  have custody : world.passage.Custody surfaces.sources.length surfaces.outputs.length log :=
    Passage.Custody.run silent steps
  have phase := custody.phase
  refine ⟨phase.chosen.1, phase.chosen.2, Option.length_toList_le, ?_, ?_, custody.within later, ?_⟩
  · intro queue found
    obtain ⟨balanced, released⟩ := phase.balanced found
    refine ⟨balanced.counted, balanced.accounted, fun deinitialized => ?_⟩
    obtain ⟨empty, idle⟩ := released deinitialized
    have accounted := balanced.accounted
    rw [empty, idle] at accounted
    exact accounted
  · obtain ⟨done, settled⟩ := phase.settled
    have same : (output?.getD { surface := 0 }).queued = queued := by
      cases equal : output? <;> simp [queued, equal]
    have sent : queued = (done.filter (·.2)).map (·.1.timestamp) := same.symm.trans settled.queued
    refine ⟨done, settled.accepted, phase.order, sent, ?_, settled.failed, ?_⟩
    · rw [sent, List.length_map]
      exact settled.forwarded
    · intro kept
      apply settled.failed_eq_zero
      change (output?.getD { surface := 0 }).abandoned = false
      cases equal : output? with
      | none => rfl
      | some output => exact kept output equal
  · intro deinitialized
    have detached := phase.detached deinitialized
    have rests : world.passage.Rests last.passage :=
      Passage.Rests.run deinitialized detached later
    refine ⟨Passage.underWay_of_detached detached, ?_⟩
    change last.passage.stats = world.passage.stats
    rw [Passage.stats_of_detached detached, Passage.stats_of_detached rests.detached]
    exact rests.finalStats

def hastyRelease : List SessionStep :=
  [.operation (.initSession "0" (.of 7 ⟨640, 480⟩ .yuv420) .absent), .surroundings (.produce 0 1),
    .operation .startSession, .surroundings (.produce 0 2), .surroundings (.produce 0 3),
    .surroundings .forward, .surroundings (.produce 0 4), .operation .deinitSession]

theorem frames_accounted_release :
    let world := stateAfter SessionStep.perform World.ordinary hastyRelease
    let last := stateAfter SessionStep.perform world [.surroundings (.produce 0 5)]
    world.session.relayStats = ⟨2, 1, 0⟩ ∧ last.session.relayStats = world.session.relayStats ∧
      (world.surfaces.output? 0).map (·.queued) = some [1, 3] ∧
      ∃ queue, world.surfaces.source? 0 = some queue ∧ queue.produced = queue.released := by
  intro world last
  obtain ⟨_, _, _, balanced, _, _, constant⟩ :=
    @frames_accounted (.eyesFree (.ofExtent 4000 3000)) ⟨4, "relay"⟩ {} hastyRelease
      [.surroundings (.produce 0 5)] (fun _ member => absurd member List.not_mem_nil)
  have deinitialized : world.session.state = .deinitialized := by decide +kernel
  have present : (world.surfaces.source? 0).isSome := by decide +kernel
  obtain ⟨queue, found⟩ := Option.isSome_iff_exists.mp present
  refine ⟨by decide +kernel, (constant deinitialized).2, by decide +kernel, queue, found, ?_⟩
  exact (balanced queue found).2.2 deinitialized

end EyesFree
