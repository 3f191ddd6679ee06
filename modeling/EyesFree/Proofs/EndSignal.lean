import EyesFree.Proofs.StageMoves

namespace EyesFree

/-! What the signaled end of a session changes for the clients of a sequencer. From the
moment of the signal on nothing more is heard of repeating requests, and nothing else is
different from the run without it: not the answers, not the state, and not what is heard of
requests for one capture. -/

def deliveriesOf (sequence : SequenceId) (deliveries : List Delivery) : List Delivery :=
  deliveries.filter (·.event.sequence = sequence)

@[simp] theorem deliveriesOf_append (sequence : SequenceId) (first second : List Delivery) :
    deliveriesOf sequence (first ++ second) =
      deliveriesOf sequence first ++ deliveriesOf sequence second :=
  List.filter_append ..

private theorem deliveriesOf_eq_self {sequence : SequenceId} {deliveries : List Delivery}
    (all : ∀ delivery ∈ deliveries, delivery.event.sequence = sequence) :
    deliveriesOf sequence deliveries = deliveries :=
  List.filter_eq_self.mpr fun delivery member => decide_eq_true (all delivery member)

private theorem deliveriesOf_eq_nil {sequence : SequenceId} {deliveries : List Delivery}
    (none : ∀ delivery ∈ deliveries, delivery.event.sequence ≠ sequence) :
    deliveriesOf sequence deliveries = [] :=
  List.filter_eq_nil_iff.mpr fun delivery member => by simpa using none delivery member

/-! ## Reports -/

section

variable {context : CaptureContext} {sequence : SequenceId}
  {reports : List (Flight Subscription × Report)}

private theorem deliveriesOf_tell :
    deliveriesOf sequence (ReplayChannel.tell context.hear reports) =
      ReplayChannel.tell context.hear
        (reports.filter fun reported => reported.1.client.sequence = sequence) := by
  induction reports with
  | nil => rfl
  | cons reported rest induction =>
      obtain ⟨flight, report⟩ := reported
      have tagged := fun delivery told =>
        (@Flight.belongsTo_of_mem_told context flight report delivery told).2
      rw [ReplayChannel.tell_cons, deliveriesOf_append, induction]
      by_cases same : flight.client.sequence = sequence
      · rw [List.filter_cons_of_pos (by simpa using same), ReplayChannel.tell_cons,
          deliveriesOf_eq_self fun delivery told => (tagged delivery told).trans same]
      · rw [List.filter_cons_of_neg (by simpa using same),
          deliveriesOf_eq_nil fun delivery told => tagged delivery told ▸ same]
        rfl

private theorem Flight.told_hear_of_once {flight : Flight Subscription}
    (once : flight.client.kind ≠ .repeating) (ended : Bool) (report : Report) :
    flight.told { context with ended }.hear report = flight.told context.hear report := by
  simp [told, Hearing.told, CaptureContext.hear, Subscription.deliveries, once]

private theorem deliveriesOf_tell_of_once
    (once : ∀ flight report, (flight, report) ∈ reports → flight.client.sequence = sequence →
      flight.client.kind ≠ .repeating) (ended : Bool) :
    deliveriesOf sequence (ReplayChannel.tell { context with ended }.hear reports) =
      deliveriesOf sequence (ReplayChannel.tell context.hear reports) := by
  rw [deliveriesOf_tell, deliveriesOf_tell]
  refine List.flatMap_congr fun (flight, report) member => ?_
  obtain ⟨made, same⟩ := List.mem_filter.mp member
  exact Flight.told_hear_of_once (once flight report made (by simpa using same)) ended report

private theorem deliveriesOf_tell_of_repeating (ended : context.ended = true)
    (repeating : ∀ flight report, (flight, report) ∈ reports → flight.client.sequence = sequence →
      flight.client.kind = .repeating) :
    deliveriesOf sequence (ReplayChannel.tell context.hear reports) = [] := by
  rw [deliveriesOf_tell]
  refine List.flatMap_eq_nil_iff.mpr fun (flight, report) member => ?_
  obtain ⟨made, same⟩ := List.mem_filter.mp member
  exact Flight.told_hear_of_held (repeating flight report made (by simpa using same)) ended report

end

/-! ## Steps -/

namespace StageMove

variable {stage after : SequencerStage} {step : SequencerStep} {announced : List Delivery}
  {reports : List (Flight Subscription × Report)} {reply : SequencerReply}
  {starts all : List Start}

private theorem kind_of_report (move : StageMove stage step announced reports reply after)
    (ledger : StageLedger starts stage) (within : starts ⊆ all)
    (distinct : (all.map Start.sequence).Nodup) {start : Start} (member : start ∈ all)
    {flight : Flight Subscription} {report : Report} (made : (flight, report) ∈ reports)
    (same : flight.client.sequence = start.sequence) : flight.client.kind = start.kind := by
  obtain ⟨owner, ownerMember, isOf⟩ : ∃ owner ∈ starts, flight.IsOf owner := by
    rcases move.carried_of_report made with running | pending
    · obtain ⟨owner, member, isOf, _⟩ := ledger.slot flight running
      exact ⟨owner, member, isOf⟩
    · obtain ⟨owner, member, isOf, _⟩ := ledger.queue flight pending
      exact ⟨owner, member, isOf⟩
  have sequence : owner.sequence = start.sequence :=
    (congrArg Subscription.sequence isOf.1).symm.trans same
  rw [isOf.1, List.inj_on_of_nodup_map distinct (within ownerMember) member sequence]
  rfl

private theorem deliveriesOf_announced (move : StageMove stage step announced reports reply after)
    (within : (step.start? stage.context (.ok reply)).toList ⊆ all)
    (distinct : (all.map Start.sequence).Nodup) {start : Start} (member : start ∈ all)
    (repeating : start.kind = .repeating) : deliveriesOf start.sequence announced = [] := by
  refine deliveriesOf_eq_nil fun delivery told same => ?_
  obtain ⟨other, started, once, rfl⟩ := move.start_of_announced told
  have otherMember : other ∈ all := within (Option.mem_toList.mpr started)
  rw [List.inj_on_of_nodup_map distinct otherMember member same] at once
  exact once repeating

end StageMove

/-! ## Runs -/

/-- What someone who uses the sequencer sees of a step, apart from events: what it answers,
and the stage after it but for the signal. -/
def Recorded.seen (recorded : Recorded SequencerStage Delivery SequencerReply) :
    Except Fault SequencerReply × SequencerStage :=
  (recorded.outcome, recorded.after.signaled false)

namespace SequencerStage

variable {stage : SequencerStage} {steps : List SequencerStep}

private theorem starts_cons (stage : SequencerStage) (step : SequencerStep)
    (rest : List SequencerStep) :
    starts stage (step :: rest) =
      (step.start? stage.context (perform step stage).outcome).toList ++
        starts (perform step stage).state rest := rfl

variable (extent : stage.context.capabilities.activeArray.HasExtent)
  (silent : ∀ step ∈ steps, step.signals = false)

include extent silent in
/-- The signal makes no difference to what is seen of a run, and none to its starts. -/
theorem run_signaled (ended : Bool) :
    (runSteps perform (stage.signaled ended) steps).map Recorded.seen =
        (runSteps perform stage steps).map Recorded.seen ∧
      starts (stage.signaled ended) steps = starts stage steps := by
  induction steps generalizing stage with
  | nil => exact ⟨rfl, rfl⟩
  | cons step rest induction =>
      obtain ⟨first, later⟩ := List.forall_mem_cons.mp silent
      obtain ⟨announced, reports, reply, after, move, performed⟩ := moves extent first
      obtain ⟨seen, started⟩ := induction (move.keeps_capabilities ▸ extent) later
      simp only [runSteps, List.map_cons, starts_cons, performed ended, move.perform_eq performed,
        seen, started]
      exact ⟨rfl, rfl⟩

include extent silent in
private theorem deliveriesOf_run {starts : List Start} (ledger : StageLedger starts stage)
    (distinct : ((starts ++ stage.starts steps).map Start.sequence).Nodup) :
    ∀ start ∈ starts ++ stage.starts steps,
      deliveriesOf start.sequence (emittedBy perform (stage.signaled true) steps) =
        if start.kind = .repeating then []
        else deliveriesOf start.sequence (emittedBy perform stage steps) := by
  induction steps generalizing stage starts with
  | nil =>
      intro start member
      split <;> rfl
  | cons step rest induction =>
      obtain ⟨first, later⟩ := List.forall_mem_cons.mp silent
      obtain ⟨announced, reports, reply, after, move, performed⟩ := moves extent first
      have plain := move.perform_eq performed
      have split : starts ++ stage.starts (step :: rest) =
          starts ++ (step.start? stage.context (.ok reply)).toList ++ after.starts rest := by
        rw [starts_cons, plain, List.append_assoc]
      rw [split] at distinct ⊢
      intro start member
      have further := induction (move.keeps_capabilities ▸ extent) later (ledger.move move)
        distinct start member
      have kind {flight report} := @StageMove.kind_of_report _ _ _ _ _ _ _ _ move ledger
        (fun _ known => List.mem_append_left _ (List.mem_append_left _ known)) distinct start
        member flight report
      rw [emittedBy_cons, emittedBy_cons, performed true, plain]
      simp only [deliveriesOf_append, further]
      by_cases repeating : start.kind = .repeating
      · have announcement : deliveriesOf start.sequence announced = [] :=
          move.deliveriesOf_announced
            (fun _ made => List.mem_append_left _ (List.mem_append_right _ made)) distinct member
            repeating
        have silence := @deliveriesOf_tell_of_repeating (stage.signaled true).context
          start.sequence reports rfl fun flight report made same => (kind made same).trans repeating
        simp [repeating, announcement, silence]
      · have same := @deliveriesOf_tell_of_once stage.context start.sequence reports
          (fun flight report made same => kind made same ▸ repeating) true
        simp only [if_neg repeating]
        rw [← same]
        rfl

end SequencerStage

/-- The signal that a session ends stops what is heard of repeating requests at once, and
makes no other difference to a run. -/
theorem end_signal {context : CaptureContext}
    (extent : context.capabilities.activeArray.HasExtent) {before after : List SequencerStep}
    (silent : ∀ step ∈ before ++ after, step.signals = false) :
    let start : SequencerStage := ⟨context, {}, {}⟩
    let plain := before ++ after
    let flagged := before ++ .signalEnd true :: after
    ((runSteps SequencerStage.perform start flagged).eraseIdx before.length).map Recorded.seen =
        (runSteps SequencerStage.perform start plain).map Recorded.seen ∧
      start.starts flagged = start.starts plain ∧
      ∀ capture ∈ start.starts plain,
        deliveriesOf capture.sequence (emittedBy SequencerStage.perform start flagged) =
          deliveriesOf capture.sequence (emittedBy SequencerStage.perform start
            (if capture.kind = .repeating then before else plain)) := by
  intro start plain flagged
  let middle := stateAfter SequencerStage.perform start before
  obtain ⟨published, ledger⟩ := SequencerStage.ledger_run extent before
  have middleExtent : middle.context.capabilities.activeArray.HasExtent := published ▸ extent
  have later : ∀ step ∈ after, step.signals = false := fun step member =>
    silent step (List.mem_append_right _ member)
  have started : start.starts plain = start.starts before ++ middle.starts after :=
    notedBy_append ..
  refine ⟨?_, ?_, ?_⟩
  · have signal : runSteps SequencerStage.perform start flagged =
        runSteps SequencerStage.perform start before ++ ⟨.ok .done, [], middle.signaled true⟩ ::
          runSteps SequencerStage.perform (middle.signaled true) after := runSteps_append ..
    rw [signal, ← length_runSteps SequencerStage.perform start before,
      List.eraseIdx_append_of_length_le (Nat.le_refl _), Nat.sub_self, List.eraseIdx_cons_zero,
      List.map_append, (SequencerStage.run_signaled middleExtent later true).1, ← List.map_append,
      ← runSteps_append]
  · rw [started, ← (SequencerStage.run_signaled middleExtent later true).2]
    exact notedBy_append ..
  · intro capture member
    rw [started] at member
    have distinct := (SequencerStage.ledger_run extent plain).2.distinct
    rw [show SequencerStage.starts _ plain = _ from started] at distinct
    have heard := SequencerStage.deliveriesOf_run middleExtent later ledger distinct capture member
    have signal : emittedBy SequencerStage.perform start flagged =
        emittedBy SequencerStage.perform start before ++
          emittedBy SequencerStage.perform (middle.signaled true) after := by
      rw [emittedBy_append]
      rfl
    rw [signal, deliveriesOf_append, heard]
    split
    · exact List.append_nil _
    · rw [emittedBy_append, deliveriesOf_append]

def signaledHalfway : List SequencerStep × List SequencerStep :=
  ([.startRepeating "preview", .startMultiFrame "picture", .channel (.fireRepeating 7)],
    [.channel (.fireRepeating 8), .channel (.completePending 9), .stopRepeating])

theorem end_signal_halfway :
    let start : SequencerStage := ⟨{ capabilities := .eyesFree (.ofExtent 4000 3000) }, {}, {}⟩
    let (before, after) := signaledHalfway
    ∃ preview ∈ start.starts (before ++ after), preview.kind = .repeating ∧
      deliveriesOf preview.sequence
          (emittedBy SequencerStage.perform start (before ++ .signalEnd true :: after)) =
        deliveriesOf preview.sequence (emittedBy SequencerStage.perform start before) := by
  intro start
  obtain ⟨_, _, heard⟩ := @end_signal start.context (Rect.hasExtent_ofExtent 4000 3000)
    signaledHalfway.1 signaledHalfway.2 (by decide)
  let preview : Start := ⟨⟨⟨1⟩, .repeating, "preview"⟩, start.context.parameters.snapshot⟩
  have started : preview ∈ start.starts (signaledHalfway.1 ++ signaledHalfway.2) := by
    decide +kernel
  exact ⟨preview, started, rfl, heard preview started⟩

end EyesFree
