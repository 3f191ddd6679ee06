import EyesFree.Program.Printout
import EyesFree.Proofs.Pacing
import EyesFree.Proofs.Streaming
import Mathlib.Data.List.Range

namespace EyesFree

/-! What a simulation has counted when it is finished. The pace of the camera, the
speed of the relay's worker and the settings decide when frames come and which are
dropped, but not the totals. -/

/-- The totals of a simulation with so many frames, stills that were accepted, and stills
that were rejected. The preview's sequence is one more that is completed. -/
structure SimulationReport.Totals (frames accepted rejected : Nat) (report : SimulationReport) :
    Prop where
  shown : report.frames = frames
  requested : report.stillsRequested = accepted + rejected
  rejected : report.stillsRejected = rejected
  events : report.events =
    { started := frames + accepted
      processStarted := frames + accepted
      completed := frames + accepted
      failed := 0
      sequenceCompleted := accepted + 1
      sequenceAborted := 0 }
  relayed : report.relay.forwarded + report.relay.dropped = frames
  unfailed : report.relay.failed = 0
  produced : report.produced = frames
  released : report.released = frames

namespace Simulation

/-! ## Readings -/

/-- Each reading comes at least an interval after the one before it, the first one after the
last tick: there is a frame due at each of them. -/
def Spaced (pacer : Pacer) (readings : List Reading) : Prop :=
  (pacer.last.toList ++ readings.map Reading.time).IsChain fun earlier later =>
    earlier + pacer.interval ≤ later

private theorem Spaced.late {pacer : Pacer} {reading : Reading} {rest : List Reading}
    (spaced : Spaced pacer (reading :: rest)) :
    ∀ last ∈ pacer.last, last + pacer.interval ≤ reading.time := by
  intro last since
  rw [Spaced, Option.mem_def.mp since] at spaced
  exact spaced.rel_head? rfl

private theorem Spaced.tail {pacer : Pacer} {reading : Reading} {rest : List Reading}
    (spaced : Spaced pacer (reading :: rest)) :
    Spaced { pacer with last := some reading.time } rest :=
  List.IsChain.right_of_append spaced

/-! ## Stills -/

def stillsDue (stillEvery frames : Nat) : Nat :=
  if stillEvery = 0 then 0 else frames / stillEvery

/-- How many of the stills that are asked for are given an id: the first one is the preview's,
and there are no ids beyond the limit. -/
def stillsAccepted (stills : Nat) : Nat := min stills (SequenceId.limit - 1)

private theorem stillsAccepted_of_lt {stills : Nat} (few : stills < SequenceId.limit) :
    stillsAccepted stills = stills := Nat.min_eq_left (Nat.le_sub_one_of_lt few)

private theorem stillsAccepted_add (stills : Nat) :
    stillsAccepted stills + (stills - (SequenceId.limit - 1)) = stills := by
  unfold stillsAccepted
  omega

private theorem stillsDue_succ (stillEvery frames : Nat) :
    stillsDue stillEvery (frames + 1) = stillsDue stillEvery frames +
      if 0 < stillEvery ∧ (frames + 1) % stillEvery = 0 then 1 else 0 := by
  unfold stillsDue
  by_cases never : stillEvery = 0
  · simp [never]
  · simp only [if_neg never, Nat.succ_div, Nat.dvd_iff_mod_eq_zero, Nat.pos_of_ne_zero never,
      true_and]

variable {simulation : Simulation}

private theorem onWorld_of_performed {α : Type} (inner : Activity ReplayWorld Delivery α)
    {world : ReplayWorld} {told : List Delivery} {outcome : Except Fault α}
    (performed : inner simulation.world = ⟨world, told, outcome⟩) :
    onWorld inner simulation = ⟨{ simulation with world }, told, outcome⟩ := by
  rw [onWorld, Activity.on_apply, performed]

private theorem takeStill_eq {stills done : Nat} (requested : simulation.stillsRequested = stills)
    (rejected : simulation.stillsRejected = stills - (SequenceId.limit - 1))
    (streaming : Streaming (stillsAccepted stills) done simulation.world.captures) :
    let asked := stills +
      if 0 < simulation.stillEvery ∧ simulation.frames % simulation.stillEvery = 0 then 1 else 0
    ∃ world told, takeStill simulation =
        ⟨{ simulation with
            world
            stillsRequested := asked
            stillsRejected := asked - (SequenceId.limit - 1) }, told, .ok ()⟩ ∧
      world.passage = simulation.world.passage ∧
      Streaming (stillsAccepted asked) done world.captures ∧
      ∀ frames, (EventTally.ofStream frames (stillsAccepted stills) done).recordAll told =
        .ofStream frames (stillsAccepted asked) done := by
  intro asked
  have limit : SequenceId.limit = 0x7FFFFFFF := rfl
  by_cases due : 0 < simulation.stillEvery ∧ simulation.frames % simulation.stillEvery = 0
  · have one : asked = stills + 1 := by simp only [asked, if_pos due]
    rw [one]
    subst requested
    rcases Nat.lt_or_ge SequenceId.limit (stillsAccepted simulation.stillsRequested + 2) with
      exhausted | room
    · have refused := streaming.startMultiFrame_of_exhausted exhausted simulationReceiver
      have raw : SequenceId.raw (.error Sequencer.exhaustion) = -1 := rfl
      unfold stillsAccepted at exhausted
      have all : stillsAccepted (simulation.stillsRequested + 1) =
          stillsAccepted simulation.stillsRequested := by
        unfold stillsAccepted
        omega
      have more : simulation.stillsRequested + 1 - (SequenceId.limit - 1) =
          simulation.stillsRejected + 1 := by omega
      rw [all, more]
      refine ⟨simulation.world, [], ?_, rfl, streaming, fun frames => rfl⟩
      simp only [takeStill, Activity.bind_apply, Activity.read_apply, if_pos due,
        onWorld_of_performed _ refused, raw, if_true, Activity.modify_apply]
      rfl
    · obtain ⟨world, told, id, started, passage, streams, tallied⟩ :=
        streaming.startMultiFrame room simulationReceiver
      have raw : ¬SequenceId.raw (.ok id) = -1 := by
        simp only [SequenceId.raw]
        omega
      unfold stillsAccepted at room
      have next : stillsAccepted (simulation.stillsRequested + 1) =
          stillsAccepted simulation.stillsRequested + 1 := by
        unfold stillsAccepted
        omega
      have none : simulation.stillsRequested + 1 - (SequenceId.limit - 1) =
          simulation.stillsRejected := by omega
      rw [next, none]
      refine ⟨world, told, ?_, passage, streams, tallied⟩
      simp only [takeStill, Activity.bind_apply, Activity.read_apply, if_pos due,
        onWorld_of_performed _ started, if_neg raw, Activity.modify_apply, List.append_nil,
        List.nil_append, Nat.add_zero]
  · have same : asked = stills := by simp only [asked, if_neg due, Nat.add_zero]
    rw [same]
    refine ⟨simulation.world, [], ?_, rfl, streaming, fun frames => rfl⟩
    simp only [takeStill, Activity.bind_apply, Activity.read_apply, if_neg due]
    subst requested
    rw [← rejected]
    rfl

/-! ## A simulation that is under way -/

structure Underway (settings : SimulationSettings) (stillEvery : Nat) (simulation : Simulation)
    (tally : EventTally) : Prop where
  configured : simulation.settings = settings
  spaced : simulation.stillEvery = stillEvery
  within : simulation.frames ≤ settings.frames.toNat
  requested : simulation.stillsRequested = stillsDue stillEvery simulation.frames
  rejected : simulation.stillsRejected =
    stillsDue stillEvery simulation.frames - (SequenceId.limit - 1)
  streams : ∃ done, Streaming (stillsAccepted (stillsDue stillEvery simulation.frames)) done
      simulation.world.captures ∧
    tally = .ofStream simulation.frames
      (stillsAccepted (stillsDue stillEvery simulation.frames)) done
  flows : ∃ outlet queue relay output, simulation.world.passage.Flowing simulation.source outlet
    simulation.frames queue relay output
  paced : simulation.pacer.InRange

structure Settled (frames stills : Nat) (simulation : Simulation) (tally : EventTally) : Prop where
  totals : ∀ startedAt elapsed, (SimulationReport.of simulation tally startedAt elapsed).Totals
    frames (stillsAccepted stills) (stills - (SequenceId.limit - 1))
  vacant : simulation.world.channel.repeating = none
  empty : simulation.world.channel.pending = []

variable {settings : SimulationSettings} {stillEvery : Nat} {tally : EventTally}

private theorem Underway.ofStreaming (configured : simulation.settings = settings)
    (spaced : simulation.stillEvery = stillEvery) (shown : simulation.frames = 0)
    (requested : simulation.stillsRequested = 0) (rejected : simulation.stillsRejected = 0)
    (streams : Streaming 0 0 simulation.world.captures)
    (flows : ∃ outlet queue relay output,
      simulation.world.passage.Flowing simulation.source outlet 0 queue relay output)
    (paced : simulation.pacer.InRange) : Underway settings stillEvery simulation {} := by
  have none : stillsDue stillEvery simulation.frames = 0 := by simp [stillsDue, shown]
  have zero : stillsAccepted 0 = 0 := Nat.zero_min _
  exact {
    configured
    spaced
    within := shown ▸ Nat.zero_le _
    requested := requested.trans none.symm
    rejected := by rw [rejected, none, Nat.zero_sub]
    streams := ⟨0, by rwa [none, zero], by rw [none, zero, shown]; rfl⟩
    flows := by rwa [shown]
    paced }

/-- A simulation for eyes-free videography is set up and started whatever the arguments and
the configuration are, and its pacer has not ticked yet. -/
theorem exists_underway {arguments : SimulateArguments}
    (eyesFree : arguments.extension = .eyesFreeVideography) (configured : Settings) :
    ∃ simulation started, setUp arguments configured = .ok simulation ∧
      start simulation = ⟨started, [], .ok (.ok .first)⟩ ∧
      started.pacer = .ofRate (arguments.settings configured.simulation).fps ∧
      Underway (arguments.settings configured.simulation) arguments.stillEvery.toNat started
        {} := by
  obtain ⟨extension, _, _, _, _, _, _, _, _, _⟩ := arguments
  subst eyesFree
  refine ⟨_, _, rfl, onWorld_of_performed _ (World.whileActive_of_performed
    (fun context => Sequencer.startRepeating context simulationReceiver) rfl
    (Sequencer.startRepeating_eq (by decide) rfl simulationReceiver)),
    rfl, .ofStreaming rfl rfl rfl rfl rfl ?streams ?flows (Pacer.inRange_ofRate _)⟩
  case streams =>
    exact {
      active := rfl
      extent := Rect.hasExtent_ofExtent _ _
      unended := rfl
      bound := rfl
      accepting := rfl
      running := ⟨_, rfl, rfl⟩
      once := nofun
      outstanding := rfl }
  case flows =>
    exact ⟨0, .setListened true (.of _ _ _ _), {}, { surface := _ }, {
      chosen := rfl
      attached := rfl
      ready := ⟨rfl, rfl, rfl⟩
      installed := rfl
      found := rfl
      present := rfl
      kept := rfl
      listened := rfl
      opened := rfl
      holds := Nat.lt_of_lt_of_le Nat.zero_lt_one (Nat.le_max_right _ _)
      empty := rfl
      produced := rfl
      released := rfl
      accounted := rfl
      unfailed := rfl }⟩

private theorem Underway.letForward (underway : Underway settings stillEvery simulation tally)
    (reading : Reading) :
    ∃ after, Simulation.letForward reading simulation = ⟨after, [], .ok ()⟩ ∧
      after.frames = simulation.frames ∧ after.pacer = simulation.pacer ∧
      Underway settings stillEvery after tally := by
  obtain ⟨done, streaming, counted⟩ := underway.streams
  obtain ⟨outlet, queue, relay, output, flowing⟩ := underway.flows
  cases forwarded : reading.forwarded with
  | false =>
      refine ⟨simulation, ?_, rfl, rfl, underway⟩
      simp only [Simulation.letForward, forwarded, Bool.false_eq_true, if_false]
      rfl
  | true =>
      obtain ⟨changed, idle, offered, moved, _⟩ := World.flowing_forwardFrame flowing
      refine ⟨{ simulation with world := simulation.world.forwardFrame }, ?_, rfl, rfl,
        { underway with
          streams := ⟨done, by rwa [World.captures_forwardFrame], counted⟩
          flows := ⟨outlet, changed, idle, offered, moved⟩ }⟩
      simp only [Simulation.letForward, forwarded, if_true]
      rfl

private theorem Underway.produceFrame (underway : Underway settings stillEvery simulation tally)
    (unfinished : simulation.frames < settings.frames.toNat) (now : Timestamp) :
    ∃ after told, Simulation.produceFrame now simulation = ⟨after, told, .ok ()⟩ ∧
      after.frames = simulation.frames + 1 ∧ after.pacer = simulation.pacer ∧
      Underway settings stillEvery after (tally.recordAll told) := by
  obtain ⟨done, streaming, counted⟩ := underway.streams
  obtain ⟨outlet, queue, relay, output, flowing⟩ := underway.flows
  obtain ⟨changed, changedRelay, moved⟩ := World.flowing_produce flowing now
  have unaware : Streaming (stillsAccepted (stillsDue stillEvery simulation.frames)) done
      (simulation.world.produce simulation.source now).2.captures := by
    rwa [World.captures_produce]
  obtain ⟨fired, firedTold, fire, firedPassage, firedStreams, firedTally⟩ :=
    unaware.fireRepeating now
  obtain ⟨completed, completedTold, count, complete, completedPassage, completedStreams,
    completedTally⟩ := firedStreams.completePending now
  let shown : Simulation := { simulation with frames := simulation.frames + 1, world := completed }
  obtain ⟨world, told, taken, passage, streams, tallied⟩ :=
    @takeStill_eq shown _ _ underway.requested underway.rejected completedStreams
  have asked : stillsDue stillEvery (simulation.frames + 1) =
      stillsDue stillEvery simulation.frames +
        if 0 < shown.stillEvery ∧ shown.frames % shown.stillEvery = 0 then 1 else 0 := by
    rw [stillsDue_succ, ← underway.spaced]
  rw [← asked] at taken streams tallied
  refine ⟨{ shown with
      world
      stillsRequested := stillsDue stillEvery (simulation.frames + 1)
      stillsRejected := stillsDue stillEvery (simulation.frames + 1) - (SequenceId.limit - 1) },
    firedTold ++ (completedTold ++ told), ?_, rfl, rfl,
    { configured := underway.configured
      spaced := underway.spaced
      within := unfinished
      requested := rfl
      rejected := rfl
      streams := ⟨_, streams, ?_⟩
      flows := ⟨outlet, changed, changedRelay, output, ?_⟩
      paced := underway.paced }⟩
  · simp only [Simulation.produceFrame, Activity.bind_apply, Activity.modify_apply,
      Activity.read_apply, onWorld, Activity.on_apply, Activity.step_apply, fire, complete]
    rw [taken]
    simp
  · rw [counted, EventTally.recordAll_append, EventTally.recordAll_append, firedTally,
      completedTally, tallied]
  · rw [passage, completedPassage, firedPassage]
    exact moved

private theorem Underway.advance (underway : Underway settings stillEvery simulation tally)
    (unfinished : simulation.frames < settings.frames.toNat) (reading : Reading) :
    ∃ after told wait, Simulation.advance reading simulation = ⟨after, told, .ok wait⟩ ∧
      ((∀ last ∈ simulation.pacer.last, last + simulation.pacer.interval ≤ reading.time) →
        after.frames = simulation.frames + 1 ∧
        after.pacer = { simulation.pacer with last := some reading.time }) ∧
      Underway settings stillEvery after (tally.recordAll told) := by
  obtain ⟨onward, forwarded, frames, pacer, still⟩ := underway.letForward reading
  obtain ⟨due, ticked, tick, inRange, prompt⟩ := still.paced.tick reading.time_lt
  have paced : Underway settings stillEvery { onward with pacer := ticked } tally :=
    { still with paced := inRange }
  rw [pacer] at prompt
  cases due with
  | true =>
      obtain ⟨after, told, produced, counted, kept, further⟩ :=
        paced.produceFrame (frames ▸ unfinished) reading.now
      refine ⟨after, told, none, ?_, fun late => ⟨counted.trans (congrArg (· + 1) frames),
        kept.trans (prompt late).2⟩, further⟩
      simp only [Reading.time] at tick
      simp only [Simulation.advance, Activity.bind_apply, forwarded, Activity.read_apply, tick,
        Activity.require_apply, Activity.modify_apply, if_true, produced]
      simp
  | false =>
      obtain ⟨wait, remains⟩ := inRange.remaining reading.time
      refine ⟨{ onward with pacer := ticked }, [], some wait, ?_,
        fun late => Bool.noConfusion (prompt late).1, paced⟩
      simp only [Reading.time] at tick remains
      simp only [Simulation.advance, Activity.bind_apply, forwarded, Activity.read_apply, tick,
        Activity.require_apply, Activity.modify_apply, Bool.false_eq_true, if_false, remains]
      rfl

/-- At the end the stills that wait are completed, the preview ends, and
everything is released. -/
theorem Underway.finish (underway : Underway settings stillEvery simulation tally)
    (done : settings.frames.toNat ≤ simulation.frames) (reading : Reading) :
    ∃ after told, Simulation.finish reading simulation = ⟨after, told, .ok (.ok ())⟩ ∧
      Settled settings.frames.toNat (stillsDue stillEvery settings.frames.toNat) after
        (tally.recordAll told) := by
  obtain ⟨onward, forwarded, frames, _, still⟩ := underway.letForward reading
  obtain ⟨accomplished, streaming, counted⟩ := still.streams
  obtain ⟨outlet, queue, relay, output, flowing⟩ := still.flows
  obtain ⟨completed, completedTold, count, complete, completedPassage, completedStreams,
    completedTally⟩ := streaming.completePending reading.now
  obtain ⟨stopped, stoppedTold, stop, stoppedPassage, active, bound, vacant, empty, stoppedTally⟩ :=
    completedStreams.stopRepeating rfl
  obtain ⟨ended, finish, endedPassage, ending, unbound, stillVacant, stillEmpty⟩ :=
    World.endSession_of_idle active bound vacant empty
  have living : ended.session.state ≠ .deinitialized := by
    rw [ending]
    nofun
  have released := World.deinitSession_eq_of_unbound living unbound
  have passage : ended.passage.Flowing onward.source outlet onward.frames queue relay output := by
    rw [endedPassage, stoppedPassage, completedPassage]
    exact { flowing with }
  obtain ⟨detached, relayed, unfailed, closed, found, produced, free⟩ :=
    World.flowing_released passage
  have total : onward.frames = settings.frames.toNat := Nat.le_antisymm still.within (frames ▸ done)
  let after : Simulation := { onward with world := ended.released }
  have stats : after.world.session.relayStats = ended.released.passage.finalStats := by
    have none : after.world.session.relay = none := detached
    simp only [Session.relayStats, none]
    rfl
  have source : after.frameSource = closed := by
    have known : after.world.surfaces.source? after.source = some closed := found
    rw [frameSource, known]
    rfl
  have channel : after.world.channel = ended.channel :=
    congrArg Captures.channel (@World.captures_released ended)
  refine ⟨after, completedTold ++ stoppedTold, ?_, ?_⟩
  · simp only [Simulation.finish, Activity.bind_apply, forwarded, onWorld, Activity.on_apply,
      complete, stop, finish, released]
    simp [after]
  · rw [total] at relayed produced free
    rw [← stats] at relayed unfailed
    rw [← source] at produced free
    refine ⟨fun startedAt elapsed => ?_, channel ▸ stillVacant, channel ▸ stillEmpty⟩
    exact {
      shown := total
      requested := (total ▸ still.requested).trans (stillsAccepted_add _).symm
      rejected := total ▸ still.rejected
      events := by
        rw [SimulationReport.of, counted, EventTally.recordAll_append, completedTally,
          stoppedTally, total]
        rfl
      relayed
      unfailed
      produced
      released := free }

/-! ## Runs -/

/-- A run ends with its readings or with the simulation, and then the totals are known. It
ends with the simulation if there are enough readings that come late enough. -/
theorem Underway.run (underway : Underway settings stillEvery simulation tally)
    (readings : List Reading) :
    ∃ after told outcome, Simulation.run readings simulation = ⟨after, told, .ok outcome⟩ ∧
      (outcome = none ∧ (Spaced simulation.pacer readings →
          simulation.frames + readings.length ≤ settings.frames.toNat) ∨
        outcome = some (.ok ()) ∧
          Settled settings.frames.toNat (stillsDue stillEvery settings.frames.toNat) after
            (tally.recordAll told)) := by
  induction readings generalizing simulation tally with
  | nil => exact ⟨simulation, [], none, rfl, .inl ⟨rfl, fun _ => underway.within⟩⟩
  | cons reading rest induction =>
      rcases Nat.lt_or_ge simulation.frames settings.frames.toNat with unfinished | done
      · have going : simulation.isDone = false := by
          simpa [isDone, underway.configured] using unfinished
        obtain ⟨next, told, wait, advanced, prompt, still⟩ := underway.advance unfinished reading
        obtain ⟨after, more, outcome, ran, ends⟩ := induction still
        refine ⟨after, told ++ more, outcome, ?_, ?_⟩
        · simp only [Simulation.run, Activity.bind_apply, Activity.read_apply, going,
            Bool.false_eq_true, if_false, advanced, ran, List.nil_append]
        · rw [EventTally.recordAll_append]
          refine ends.imp_left fun ⟨unended, few⟩ => ⟨unended, fun spaced => ?_⟩
          obtain ⟨further, ticked⟩ := prompt spaced.late
          have short := few (ticked ▸ spaced.tail)
          rw [List.length_cons]
          omega
      · have complete : simulation.isDone = true := by
          simpa [isDone, underway.configured] using done
        obtain ⟨after, told, finished, settled⟩ := underway.finish done reading
        refine ⟨after, told, some (.ok ()), ?_, .inr ⟨rfl, settled⟩⟩
        simp only [Simulation.run, Activity.bind_apply, Activity.read_apply, complete, if_true,
          finished, Activity.pure_apply, List.nil_append, List.append_nil]

end Simulation

/-- Whatever the arguments, the configuration, the clock and the speed of the worker
are, a simulation for eyes-free videography is set up and runs without an error or a
fault. It is finished when there were enough readings; then the report has every
frame and every still started, processed and completed, each frame forwarded or
dropped, and each buffer released, and no request is left in the channel. Stills are
rejected only when there are no ids left for them. -/
theorem simulation_totals {arguments : SimulateArguments}
    (eyesFree : arguments.extension = .eyesFreeVideography) (configured : Settings)
    (readings : List Simulation.Reading) (startedAt : String) (elapsed : Nat) :
    let settings := arguments.settings configured.simulation
    let frames := settings.frames.toNat
    let stills := Simulation.stillsDue arguments.stillEvery.toNat frames
    ∃ simulation started ended told outcome,
      Simulation.setUp arguments configured = .ok simulation ∧
      Simulation.start simulation = ⟨started, [], .ok (.ok .first)⟩ ∧
      Simulation.run readings started = ⟨ended, told, .ok outcome⟩ ∧
      (Simulation.Spaced (.ofRate settings.fps) readings → frames < readings.length →
        outcome ≠ none) ∧
      (outcome ≠ none →
        let report := SimulationReport.of ended (.ofEvents (told.map (·.event))) startedAt elapsed
        outcome = some (.ok ()) ∧
        Printout.simulation arguments configured readings startedAt elapsed =
          { lines := Printout.simulationHeader simulation ++ Printout.eventLines arguments told ++
              Printout.reportLines arguments report } ∧
        (stills < SequenceId.limit → report.Totals frames stills 0) ∧
        report.Totals frames (min stills (SequenceId.limit - 1))
          (stills - (SequenceId.limit - 1)) ∧
        ended.world.channel.repeating = none ∧ ended.world.channel.pending = []) := by
  intro settings frames stills
  obtain ⟨simulation, started, setUp, start, pacer, underway⟩ :=
    Simulation.exists_underway eyesFree configured
  obtain ⟨ended, told, outcome, ran, ends⟩ := underway.run readings
  refine ⟨simulation, started, ended, told, outcome, setUp, start, ran, ?finishes, ?totals⟩
  case finishes =>
    intro spaced many unended
    rcases ends with ⟨_, few⟩ | ⟨finished, _⟩
    · have short := few (pacer ▸ spaced)
      have most : started.frames + readings.length ≤ frames := short
      omega
    · cases unended.symm.trans finished
  case totals =>
    intro finished report
    obtain ⟨rfl, settled⟩ := ends.resolve_left fun unended => finished unended.1
    have totals := settled.totals startedAt elapsed
    refine ⟨rfl, ?_, fun few => ?_, totals, settled.vacant, settled.empty⟩
    · simp only [Printout.simulation, setUp, start, ran, List.nil_append]
      rfl
    · have none : stills - (SequenceId.limit - 1) = 0 := by omega
      have all := Simulation.stillsAccepted_of_lt few
      rw [none, all] at totals
      exact totals

/-- Two frames with a still each, and readings that come late enough for both of them. -/
theorem simulation_totals_brief :
    let arguments : SimulateArguments := { frames := some 2, stillEvery := 1 }
    let readings : List Simulation.Reading := [⟨1, false⟩, ⟨40000000, true⟩, ⟨80000000, false⟩]
    arguments.extension = .eyesFreeVideography ∧
      ∃ simulation started ended told,
        Simulation.setUp arguments {} = .ok simulation ∧
        Simulation.start simulation = ⟨started, [], .ok (.ok .first)⟩ ∧
        Simulation.run readings started = ⟨ended, told, .ok (some (.ok ()))⟩ ∧
        (SimulationReport.of ended (.ofEvents (told.map (·.event))) "now" 0).Totals 2 2 0 ∧
        ended.world.channel.repeating = none ∧ ended.world.channel.pending = [] := by
  intro arguments readings
  obtain ⟨simulation, started, ended, told, outcome, setUp, start, ran, finishes, totals⟩ :=
    @simulation_totals arguments rfl {} readings "now" 0
  have spaced : Simulation.Spaced (.ofRate 30) readings := by
    unfold Simulation.Spaced
    decide
  obtain ⟨rfl, _, few, _, vacant, empty⟩ := totals (finishes spaced (by decide))
  have due : Simulation.stillsDue 1 2 = 2 := by decide
  have counted := few (by decide)
  exact ⟨rfl, simulation, started, ended, told, setUp, start, ran, due ▸ counted, vacant, empty⟩

namespace Simulation

/-- Readings of a clock at each multiple of an interval, with a worker
that forwards no frame. -/
def readingsEvery (interval count : Nat) : List Reading :=
  (List.range count).map fun place => ⟨.ofNat ((place + 1) * interval), false⟩

private theorem spaced_readingsEvery {pacer : Pacer} (fresh : pacer.last = none) {count : Nat}
    (few : count * pacer.interval < 0x8000000000000000) :
    Spaced pacer (readingsEvery pacer.interval count) := by
  have time {place : Nat} (inside : place < count) :
      Reading.time ⟨.ofNat ((place + 1) * pacer.interval), false⟩ =
        (place + 1) * pacer.interval := by
    have early : (place + 1) * pacer.interval ≤ count * pacer.interval :=
      Nat.mul_le_mul_right pacer.interval inside
    rw [Reading.time, Int64.toInt_ofNat_of_lt (by omega), Int.toNat_natCast]
  rw [Spaced, fresh, Option.toList_none, List.nil_append, readingsEvery, List.map_map,
    List.isChain_map]
  cases count with
  | zero => exact .nil
  | succ count =>
      rw [List.isChain_range_succ]
      intro place inside
      rw [Function.comp, Function.comp, time (by omega), time (by omega),
        Nat.add_mul (place + 1), Nat.one_mul]

end Simulation

theorem not_totals_exhausted :
    let arguments : SimulateArguments := { frames := some 2147483647, stillEvery := 1 }
    ∃ simulation started ended told,
      Simulation.setUp arguments {} = .ok simulation ∧
      Simulation.start simulation = ⟨started, [], .ok (.ok .first)⟩ ∧
      Simulation.run (Simulation.readingsEvery 33333333 2147483648) started =
        ⟨ended, told, .ok (some (.ok ()))⟩ ∧
      let report := SimulationReport.of ended (.ofEvents (told.map (·.event))) "now" 0
      report.frames = 2147483647 ∧ report.stillsRequested = 2147483647 ∧
        report.stillsRejected = 1 ∧ report.events.completed = 4294967293 ∧
        report.events.sequenceCompleted = 2147483647 ∧
        ¬report.Totals 2147483647 2147483647 0 := by
  intro arguments
  obtain ⟨simulation, started, setUp, start, pacer, underway⟩ :=
    @Simulation.exists_underway arguments rfl {}
  obtain ⟨ended, told, outcome, ran, ends⟩ :=
    underway.run (Simulation.readingsEvery 33333333 2147483648)
  have frames : (arguments.settings {}).frames.toNat = 2147483647 := rfl
  have due : Simulation.stillsDue arguments.stillEvery.toNat 2147483647 = 2147483647 := by
    simp [arguments, Simulation.stillsDue]
  have spaced : Simulation.Spaced (.ofRate 30) (Simulation.readingsEvery 33333333 2147483648) :=
    Simulation.spaced_readingsEvery rfl (by decide)
  have settled := ends.resolve_left fun ⟨_, few⟩ => by
    have short := few (pacer ▸ spaced)
    rw [frames, Simulation.readingsEvery, List.length_map, List.length_range] at short
    omega
  obtain ⟨rfl, settled⟩ := settled
  have totals := settled.totals "now" 0
  rw [frames, due] at totals
  have one : 2147483647 - (SequenceId.limit - 1) = 1 := rfl
  have others : Simulation.stillsAccepted 2147483647 = 2147483646 := rfl
  rw [one, others] at totals
  refine ⟨simulation, started, ended, told, setUp, start, ran, totals.shown, totals.requested,
    totals.rejected, ?_, ?_, fun claimed => ?_⟩
  · exact congrArg EventTally.completed totals.events
  · exact congrArg EventTally.sequenceCompleted totals.events
  · exact absurd (claimed.rejected.symm.trans totals.rejected) (by decide)

end EyesFree
