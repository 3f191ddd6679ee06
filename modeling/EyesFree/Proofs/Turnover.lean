import EyesFree.Proofs.History
import EyesFree.Proofs.Numbering
import EyesFree.Proofs.StageMoves

namespace EyesFree

/-! The requests for one capture in the order in which they were accepted: first those that
ended, in the order in which their clients heard so, then those that are pending. Whatever
empties the queue, none of them is lost, ended twice or overtaken. -/

/-- The sequences of the requests for one capture, in the order of their starts. -/
def onceIds (starts : List Start) : List SequenceId :=
  (starts.filter (·.kind ≠ .repeating)).map Start.sequence

def endings (deliveries : List Delivery) : List SequenceId :=
  (deliveries.filter (·.event.isTerminal)).map (·.event.sequence)

def onceEndings (starts : List Start) (deliveries : List Delivery) : List SequenceId :=
  (endings deliveries).filter (· ∈ onceIds starts)

section

variable {starts : List Start} {start : Start} {deliveries : List Delivery} {id : SequenceId}

private theorem mem_onceIds : id ∈ onceIds starts ↔
    ∃ start ∈ starts, start.kind ≠ .repeating ∧ start.sequence = id := by
  simp [onceIds, and_assoc]

private theorem onceIds_append (first second : List Start) :
    onceIds (first ++ second) = onceIds first ++ onceIds second := by
  simp [onceIds]

private theorem endings_append (first second : List Delivery) :
    endings (first ++ second) = endings first ++ endings second := by
  simp [endings]

private theorem onceEndings_append (first second : List Delivery) :
    onceEndings starts (first ++ second) =
      onceEndings starts first ++ onceEndings starts second := by
  simp [onceEndings, endings_append]

private theorem exists_delivery_of_mem_endings (member : id ∈ endings deliveries) :
    ∃ delivery ∈ deliveries, delivery.event.sequence = id := by
  obtain ⟨delivery, present, same⟩ := List.mem_map.mp member
  exact ⟨delivery, (List.mem_filter.mp present).1, same⟩

private theorem onceEndings_eq_nil
    (others : ∀ delivery ∈ deliveries, delivery.event.sequence ∉ onceIds starts) :
    onceEndings starts deliveries = [] := by
  refine List.filter_eq_nil_iff.mpr fun id member => ?_
  obtain ⟨delivery, present, rfl⟩ := exists_delivery_of_mem_endings member
  simpa using others delivery present

private theorem endings_flatMap {α : Type} {items : List α} {tell : α → List Delivery}
    {key : α → SequenceId} (ends : ∀ item ∈ items, endings (tell item) = [key item]) :
    endings (items.flatMap tell) = items.map key := by
  induction items with
  | nil => rfl
  | cons item rest induction =>
      obtain ⟨first, later⟩ := List.forall_mem_cons.mp ends
      rw [List.flatMap_cons, endings_append, first, induction later]
      rfl

private theorem FinalEvents.endings (final : FinalEvents id (deliveries.map (·.event))) :
    endings deliveries = [id] := by
  have events : EyesFree.endings deliveries =
      ((deliveries.map (·.event)).filter CaptureEvent.isTerminal).map CaptureEvent.sequence := by
    rw [List.filter_map, List.map_map]
    rfl
  rw [events]
  generalize deliveries.map (·.event) = told at final
  cases final <;> rfl

end

/-! ## Requests in the channel -/

structure Serves (starts : List Start) (channel : ReplayChannel Subscription) : Prop where
  distinct : (starts.map Start.sequence).Nodup
  slot : ∀ flight, channel.repeating = some flight →
    ∃ start ∈ starts, flight.IsOf start ∧ start.kind = .repeating
  queue : ∀ flight ∈ channel.pending,
    ∃ start ∈ starts, flight.IsOf start ∧ start.kind ≠ .repeating

private theorem Ledger.serves {capabilities : Capabilities} {starts : List Start}
    {captures : Captures}
    (ledger : Ledger capabilities starts captures) : Serves starts captures.channel :=
  ⟨ledger.distinct, ledger.slot, ledger.queue⟩

private theorem StageLedger.serves {starts : List Start} {stage : SequencerStage}
    (ledger : StageLedger starts stage) : Serves starts stage.channel :=
  ⟨ledger.distinct, ledger.slot, ledger.queue⟩

namespace Serves

variable {starts : List Start} {channel : ReplayChannel Subscription} {context : CaptureContext}
  {flight : Flight Subscription} {deliveries : List Delivery} (serves : Serves starts channel)
include serves

private theorem onceEndings_of_running (running : channel.repeating = some flight)
    (about : ∀ delivery ∈ deliveries, delivery.event.sequence = flight.client.sequence) :
    onceEndings starts deliveries = [] := by
  refine onceEndings_eq_nil fun delivery told member => ?_
  obtain ⟨owner, ownerMember, ⟨client, _⟩, repeating⟩ := serves.slot flight running
  obtain ⟨other, otherMember, once, same⟩ := mem_onceIds.mp member
  have sequence : other.sequence = owner.sequence := by
    rw [same, about delivery told, client]
    rfl
  rw [List.inj_on_of_nodup_map serves.distinct otherMember ownerMember sequence] at once
  exact once repeating

private theorem onceEndings_toldEnd (frame : Nat) :
    onceEndings starts
      (channel.repeating.toList.flatMap (ReplayChannel.toldEnd context.hear frame)) = [] := by
  cases running : channel.repeating with
  | none => rfl
  | some flight =>
      refine serves.onceEndings_of_running running fun delivery told => ?_
      rw [Option.toList_some, List.flatMap_singleton] at told
      exact (Flight.belongsTo_of_mem_told delivery told).2

private theorem filter_pending :
    (channel.pending.map (·.client.sequence)).filter (· ∈ onceIds starts) =
      channel.pending.map (·.client.sequence) := by
  refine List.filter_eq_self.mpr fun id member => decide_eq_true ?_
  obtain ⟨flight, pending, rfl⟩ := List.mem_map.mp member
  obtain ⟨owner, ownerMember, ⟨client, _⟩, once⟩ := serves.queue flight pending
  exact mem_onceIds.mpr ⟨owner, ownerMember, once, (congrArg Subscription.sequence client).symm⟩

private theorem once_of_pending (pending : flight ∈ channel.pending) :
    flight.client.kind ≠ .repeating := by
  obtain ⟨owner, _, ⟨client, _⟩, once⟩ := serves.queue flight pending
  rw [client]
  exact once

private theorem onceEndings_toldDrain (extent : context.capabilities.activeArray.HasExtent)
    {step : ChannelStep} {reports : Flight Subscription → Nat → List Report}
    (about : step.pendingReports? = some reports) (frame : Nat) :
    onceEndings starts
        (ReplayChannel.toldDrain context.hear reports frame channel.pending) =
      channel.pending.map (·.client.sequence) := by
  have ends : endings (ReplayChannel.toldDrain context.hear reports frame channel.pending) =
      (channel.pending.zipIdx frame).map (·.1.client.sequence) := by
    refine endings_flatMap fun (flight, frame) numbered => ?_
    have once := serves.once_of_pending (List.fst_mem_of_mem_zipIdx numbered)
    exact (Flight.finalEvents extent once about frame).endings
  have order : (channel.pending.zipIdx frame).map (·.1.client.sequence) =
      channel.pending.map (·.client.sequence) := by
    have numbered := congrArg (List.map (·.client.sequence))
      (List.zipIdx_map_fst frame channel.pending)
    rwa [List.map_map] at numbered
  rw [onceEndings, ends, order]
  exact serves.filter_pending

private theorem onceEndings_toldAbort :
    onceEndings starts ((channel.repeating.toList ++ channel.pending).flatMap
        (ReplayChannel.toldAbort context.hear)) =
      channel.pending.map (·.client.sequence) := by
  have slot : onceEndings starts
      (channel.repeating.toList.flatMap (ReplayChannel.toldAbort context.hear)) = [] := by
    cases running : channel.repeating with
    | none => rfl
    | some flight =>
        refine serves.onceEndings_of_running running fun delivery told => ?_
        rw [Option.toList_some, List.flatMap_singleton] at told
        exact (Flight.belongsTo_of_mem_told delivery told).2
  have ends : endings (channel.pending.flatMap (ReplayChannel.toldAbort context.hear)) =
      channel.pending.map (·.client.sequence) := by
    refine endings_flatMap fun flight pending => FinalEvents.endings ?_
    rw [Flight.map_toldAbort fun repeating =>
      absurd repeating (serves.once_of_pending pending)]
    exact .aborted
  rw [List.flatMap_append, onceEndings_append, slot, onceEndings, ends]
  exact serves.filter_pending

end Serves

/-! ## Turns

What a step does to the queue: nothing, or one request joins it, or all that are in it end. -/

inductive Turn (starts : List Start) (pending : List (Flight Subscription)) :
    Option Start → List Delivery → List (Flight Subscription) → Prop
  | pass {made emitted} (repeating : ∀ start, made = some start → start.kind = .repeating)
      (silent : onceEndings starts emitted = []) : Turn starts pending made emitted pending
  | enter {start emitted flight} (once : start.kind ≠ .repeating)
      (client : flight.client = start.subscription)
      (silent : ∀ delivery ∈ emitted, delivery.event.isTerminal = false) :
      Turn starts pending (some start) emitted (pending ++ [flight])
  | leave {emitted} (ended : onceEndings starts emitted = pending.map (·.client.sequence)) :
      Turn starts pending none emitted []

/-- The requests for one capture are those that ended and those that are pending, in order. -/
structure Turnover (starts : List Start) (pending : List (Flight Subscription))
    (past : List Delivery) : Prop where
  ordered : starts.Pairwise fun earlier later =>
    earlier.sequence.number.toNat < later.sequence.number.toNat
  addressed : ∀ delivery ∈ past, ∃ start ∈ starts, delivery.BelongsTo start.subscription
  balance : onceIds starts = onceEndings starts past ++ pending.map (·.client.sequence)

namespace Turnover

variable {starts : List Start} {pending later : List (Flight Subscription)}
  {past emitted : List Delivery} {made : Option Start}

private theorem onceEndings_started (turnover : Turnover starts pending past)
    (ordered : (starts ++ made.toList).Pairwise fun earlier later =>
      earlier.sequence.number.toNat < later.sequence.number.toNat) :
    onceEndings (starts ++ made.toList) past = onceEndings starts past := by
  refine List.filter_congr fun id ended => decide_eq_decide.mpr ?_
  rw [onceIds_append, List.mem_append]
  refine ⟨fun either => either.resolve_right fun new => ?_, .inl⟩
  obtain ⟨start, startMember, _, same⟩ := mem_onceIds.mp new
  obtain ⟨delivery, told, about⟩ := exists_delivery_of_mem_endings ended
  obtain ⟨owner, ownerMember, _, sequence⟩ := turnover.addressed delivery told
  have below := (List.pairwise_append.mp ordered).2.2 owner ownerMember start startMember
  have equal : start.sequence = owner.sequence := same.trans (about.symm.trans sequence)
  rw [equal] at below
  exact Nat.lt_irrefl _ below

private theorem turn (turnover : Turnover starts pending past)
    (turn : Turn starts pending made emitted later)
    (ordered : (starts ++ made.toList).Pairwise fun earlier later =>
      earlier.sequence.number.toNat < later.sequence.number.toNat)
    (addressed : ∀ delivery ∈ emitted,
      ∃ start ∈ starts ++ made.toList, delivery.BelongsTo start.subscription) :
    Turnover (starts ++ made.toList) later (past ++ emitted) where
  ordered
  addressed := by
    intro delivery member
    rcases List.mem_append.mp member with earlier | new
    · obtain ⟨start, startMember, belongs⟩ := turnover.addressed delivery earlier
      exact ⟨start, List.mem_append_left _ startMember, belongs⟩
    · exact addressed delivery new
  balance := by
    rw [onceEndings_append, turnover.onceEndings_started ordered]
    cases turn with
    | pass repeating silent =>
        have same : onceIds (starts ++ made.toList) = onceIds starts := by
          rw [onceIds_append]
          cases made with
          | none => exact List.append_nil _
          | some start => simp [onceIds, repeating start rfl]
        have unended : onceEndings (starts ++ made.toList) emitted = [] := by
          rw [onceEndings, same]
          exact silent
        rw [same, unended, List.append_nil, turnover.balance]
    | @enter start _ flight once client silent =>
        have new : onceIds [start] = [start.sequence] := by simp [onceIds, once]
        have unended : endings emitted = [] := by
          rw [endings, List.filter_eq_nil_iff.mpr fun delivery told => by
            simp [silent delivery told]]
          rfl
        have unended : onceEndings (starts ++ [start]) emitted = [] := by
          rw [onceEndings, unended]
          rfl
        rw [Option.toList_some, onceIds_append, new, turnover.balance, unended, List.append_nil,
          List.map_append, List.append_assoc, List.map_singleton, client]
        rfl
    | leave ended =>
        rw [Option.toList_none, List.append_nil, ended, turnover.balance]
        simp

private theorem fresh : Turnover [] [] [] := ⟨.nil, by simp, rfl⟩

/-! ### What the order says -/

private theorem distinct_onceIds (turnover : Turnover starts pending past) :
    (onceIds starts).Nodup :=
  (Start.distinct_of_ordered turnover.ordered).sublist (List.filter_sublist.map _)

/-- Requests for one capture end in the order of their ids. -/
theorem pairwise_onceEndings (turnover : Turnover starts pending past) :
    (onceEndings starts past).Pairwise fun earlier later =>
      earlier.number.toNat < later.number.toNat := by
  have increasing : (onceIds starts).Pairwise fun earlier later =>
      earlier.number.toNat < later.number.toNat :=
    List.pairwise_map.mpr (turnover.ordered.sublist List.filter_sublist)
  rw [turnover.balance] at increasing
  exact (List.pairwise_append.mp increasing).1

private theorem filter_onceIds (turnover : Turnover starts pending past) :
    (onceIds starts).filter (· ∈ endings past) = onceEndings starts past := by
  have distinct := turnover.distinct_onceIds
  rw [turnover.balance] at distinct ⊢
  have ended : (onceEndings starts past).filter (· ∈ endings past) = onceEndings starts past :=
    List.filter_eq_self.mpr fun id member => decide_eq_true (List.mem_filter.mp member).1
  have waiting : (pending.map (·.client.sequence)).filter (· ∈ endings past) = [] := by
    refine List.filter_eq_nil_iff.mpr fun id member => ?_
    have known : id ∈ onceIds starts := turnover.balance ▸ List.mem_append_right _ member
    have unended := fun early => List.disjoint_of_nodup_append distinct early member
    simpa [onceEndings, known] using unended
  rw [List.filter_append, ended, waiting, List.append_nil]

private theorem count (turnover : Turnover starts pending past) :
    (starts.filter (·.kind ≠ .repeating)).length =
      pending.length +
        (starts.filter fun start =>
          start.kind ≠ .repeating ∧ start.sequence ∈ endings past).length := by
  have ended : (starts.filter fun start =>
      start.kind ≠ .repeating ∧ start.sequence ∈ endings past).map Start.sequence =
        onceEndings starts past := by
    rw [← turnover.filter_onceIds, onceIds, List.filter_map, List.filter_filter]
    simp [Bool.and_comm]
  have lengths := congrArg List.length turnover.balance
  rw [← ended] at lengths
  simp only [onceIds, List.length_append, List.length_map] at lengths
  omega

end Turnover

private theorem CaptureMove.turn {capabilities : Capabilities} {starts : List Start}
    {captures after : Captures} {step : SessionStep} {emitted : List Delivery}
    {outcome : Except Fault Reply} (ledger : Ledger capabilities starts captures)
    (extent : capabilities.activeArray.HasExtent)
    (move : CaptureMove captures step emitted outcome after) :
    Turn starts captures.channel.pending (step.start? captures.context outcome) emitted
      after.channel.pending := by
  have serves := ledger.serves
  have quiet (unstarted : ∀ id, outcome ≠ .ok (.started id)) : ∀ start,
      step.start? captures.context outcome = some start → start.kind = .repeating := by
    rw [SessionStep.start?_of_unstarted unstarted]
    exact fun _ none => nomatch none
  cases move with
  | stay unstarted => exact .pass (quiet unstarted) rfl
  | configure => exact .pass (quiet (by simp)) rfl
  | bind => exact .pass (quiet (by simp)) rfl
  | parametrize => exact .pass (quiet (by simp)) rfl
  | refuse => exact .pass (quiet (by simp)) rfl
  | release => exact .pass (quiet (by simp)) rfl
  | switch => exact .pass (quiet (by simp)) rfl
  | renew active bound room asked =>
      rw [SessionStep.start?_of_started asked]
      refine .pass (fun start same => ?_) (serves.onceEndings_toldEnd _)
      cases same
      rfl
  | submit active bound room asked once =>
      rw [SessionStep.start?_of_started asked]
      exact .enter once rfl (by simp [CaptureEvent.isTerminal])
  | stop => exact .pass (quiet (by simp)) (serves.onceEndings_toldEnd _)
  | frame about running =>
      exact .pass (quiet (by simp))
        (serves.onceEndings_of_running running Flight.sequence_of_mem_toldFrame)
  | drain about =>
      rw [SessionStep.start?_of_unstarted (by simp)]
      exact .leave (serves.onceEndings_toldDrain (ledger.published ▸ extent) about _)
  | finish =>
      rw [SessionStep.start?_of_unstarted (by simp)]
      exact .leave serves.onceEndings_toldAbort

private theorem StageMove.turn {starts : List Start} {stage after : SequencerStage}
    {step : SequencerStep} {announced : List Delivery}
    {reports : List (Flight Subscription × Report)} {reply : SequencerReply}
    (ledger : StageLedger starts stage)
    (extent : stage.context.capabilities.activeArray.HasExtent)
    (move : StageMove stage step announced reports reply after) :
    Turn starts stage.channel.pending (step.start? stage.context (.ok reply))
      (announced ++ ReplayChannel.tell stage.context.hear reports) after.channel.pending := by
  have serves := ledger.serves
  have quiet (unstarted : ∀ id, reply ≠ .started id) : ∀ start,
      step.start? stage.context (.ok reply) = some start → start.kind = .repeating := by
    rw [SequencerStep.start?_of_unstarted (by simpa using unstarted)]
    exact fun _ none => nomatch none
  cases move with
  | stay unstarted => exact .pass (quiet unstarted) rfl
  | parametrize unstarted => exact .pass (quiet unstarted) rfl
  | refuse => exact .pass (quiet (by simp)) rfl
  | switch => exact .pass (quiet (by simp)) rfl
  | renew room asked =>
      rw [SequencerStep.start?_of_started asked, List.nil_append, ReplayChannel.tell_endReports]
      refine .pass (fun start same => ?_) (serves.onceEndings_toldEnd _)
      cases same
      rfl
  | submit room asked once =>
      rw [SequencerStep.start?_of_started asked]
      exact .enter once rfl (by simp [CaptureEvent.isTerminal])
  | stop =>
      rw [List.nil_append, ReplayChannel.tell_endReports]
      exact .pass (quiet (by simp)) (serves.onceEndings_toldEnd _)
  | abort =>
      rw [SequencerStep.start?_of_unstarted (by simp), List.nil_append,
        ReplayChannel.tell_abortReports]
      exact .leave serves.onceEndings_toldAbort
  | frame about running =>
      rw [List.nil_append, ReplayChannel.tell_map_eq_toldFrame]
      exact .pass (quiet (by simp))
        (serves.onceEndings_of_running running Flight.sequence_of_mem_toldFrame)
  | drain about =>
      rw [SequencerStep.start?_of_unstarted (by simp), List.nil_append,
        ReplayChannel.tell_drainReports]
      exact .leave (serves.onceEndings_toldDrain extent about _)

private theorem StageMove.addressed {starts : List Start} {stage after : SequencerStage}
    {step : SequencerStep} {announced : List Delivery}
    {reports : List (Flight Subscription × Report)} {reply : SequencerReply}
    (ledger : StageLedger starts stage)
    (move : StageMove stage step announced reports reply after) :
    ∀ delivery ∈ announced ++ ReplayChannel.tell stage.context.hear reports,
      ∃ start ∈ starts ++ (step.start? stage.context (.ok reply)).toList,
        delivery.BelongsTo start.subscription := by
  intro delivery told
  rcases List.mem_append.mp told with told | told
  · obtain ⟨start, started, _, rfl⟩ := move.start_of_announced told
    exact ⟨start, List.mem_append_right _ (Option.mem_toList.mpr started), rfl, rfl⟩
  · obtain ⟨⟨flight, report⟩, made, told⟩ := List.mem_flatMap.mp told
    have belongs := flight.belongsTo_of_mem_told delivery told
    rcases move.carried_of_report made with running | pending
    · obtain ⟨owner, member, ⟨client, _⟩, _⟩ := ledger.slot flight running
      exact ⟨owner, List.mem_append_left _ member, client ▸ belongs⟩
    · obtain ⟨owner, member, ⟨client, _⟩, _⟩ := ledger.queue flight pending
      exact ⟨owner, List.mem_append_left _ member, client ▸ belongs⟩

/-! ## Runs -/

def ChannelStep.drains : ChannelStep → Bool
  | .completePending _ | .completePendingWith _ | .failPending _ | .losePending => true
  | _ => false

private theorem ChannelStep.exists_pendingReports {step : ChannelStep} (drains : step.drains) :
    ∃ reports : Flight Subscription → Nat → List Report, step.pendingReports? = some reports := by
  cases step with
  | completePending timestamp => exact ⟨_, rfl⟩
  | completePendingWith result => exact ⟨_, rfl⟩
  | failPending reason => exact ⟨_, rfl⟩
  | losePending => exact ⟨_, rfl⟩
  | _ => cases drains

section

variable {capabilities : Capabilities} (extent : capabilities.activeArray.HasExtent)
include extent

private theorem turnover_session (config : SessionConfig) (surfaces : Surfaces)
    (steps : List SessionStep) :
    let start := World.fresh capabilities config surfaces
    Turnover (acceptedStarts start steps)
      (stateAfter SessionStep.perform start steps).channel.pending
      (emittedBy SessionStep.perform start steps) := by
  let start := World.fresh capabilities config surfaces
  refine run_invariant SessionStep.perform
    (motive := fun steps world past =>
      Turnover (acceptedStarts start steps) world.channel.pending past) ?initial ?_ steps
  case initial => exact .fresh
  intro steps step world turnover
  have ledger := @Ledger.reached capabilities config surfaces steps
  have ordered := pairwise_acceptedStarts capabilities config surfaces (steps ++ [step])
  rw [acceptedStarts_concat] at ordered ⊢
  exact turnover.turn ((ledger.moves extent step).turn ledger extent) ordered
    fun _ told => ledger.addressed (ledger.captureStep step) told

private theorem turnover_sequencer {context : CaptureContext}
    (published : context.capabilities = capabilities) (steps : List SequencerStep) :
    let start : SequencerStage := ⟨context, {}, {}⟩
    Turnover (start.starts steps) (stateAfter SequencerStage.perform start steps).channel.pending
      (emittedBy SequencerStage.perform start steps) := by
  let start : SequencerStage := ⟨context, {}, {}⟩
  subst published
  refine run_invariant SequencerStage.perform
    (motive := fun steps stage past => Turnover (start.starts steps) stage.channel.pending past)
    ?initial ?_ steps
  case initial => exact .fresh
  intro steps step stage turnover
  obtain ⟨same, ledger⟩ := SequencerStage.ledger_run extent steps
  have stageExtent : stage.context.capabilities.activeArray.HasExtent := same ▸ extent
  have ordered := (SequencerStage.ledger_run extent (steps ++ [step])).2.ordered
  rw [SequencerStage.starts_concat] at ordered ⊢
  rcases SequencerStage.perform_cases stageExtent step with
    ⟨ended, performed⟩ | ⟨announced, reports, reply, after, move, performed⟩
  · have unstarted : step.start? stage.context (.ok .done) = none :=
      SequencerStep.start?_of_unstarted (by simp)
    rw [performed, unstarted, Option.toList_none, List.append_nil, List.append_nil]
    exact turnover
  · rw [performed] at ordered ⊢
    exact turnover.turn (move.turn ledger stageExtent) ordered (move.addressed ledger)

private theorem outcome_drain_session {starts : List Start} {world : ReplayWorld}
    (ledger : Ledger capabilities starts world.captures) {step : ChannelStep}
    (drains : step.drains) :
    let drained := SessionStep.perform (.channel step) world
    drained.outcome = .ok (.channel (.count (onceEndings starts drained.emitted).length)) := by
  obtain ⟨reports, about⟩ := step.exists_pendingReports drains
  have published : world.session.context.capabilities = capabilities := ledger.published
  have total : world.session.context.hear.IsTotal :=
    CaptureContext.hear_isTotal (published ▸ extent)
  have ended : onceEndings starts (ReplayChannel.toldDrain world.session.context.hear reports
      world.channel.nextFrame world.channel.pending) =
        world.channel.pending.map (·.client.sequence) :=
    ledger.serves.onceEndings_toldDrain (published ▸ extent) about _
  simp only [SessionStep.perform, Activity.bind_pure_apply, World.onChannel_eq,
    ChannelStep.perform_eq_of_drain total about, ended, List.length_map]
  rfl

omit extent in
private theorem outcome_drain_sequencer {starts : List Start} {stage : SequencerStage}
    (ledger : StageLedger starts stage)
    (extent : stage.context.capabilities.activeArray.HasExtent) {step : ChannelStep}
    (drains : step.drains) :
    let drained := SequencerStage.perform (.channel step) stage
    drained.outcome = .ok (.channel (.count (onceEndings starts drained.emitted).length)) := by
  obtain ⟨reports, about⟩ := step.exists_pendingReports drains
  have total : stage.context.hear.IsTotal := CaptureContext.hear_isTotal extent
  have ended := ledger.serves.onceEndings_toldDrain extent about stage.channel.nextFrame
  simp only [SequencerStage.perform_channel, ChannelStep.perform_eq_of_drain total about, ended,
    List.length_map]
  rfl

/-- What is known of the requests for one capture after a run: each that was accepted is
pending or its end was told, and the ends were told in the order of the ids. -/
structure Settles (starts : List Start) (pending : Nat) (past : List Delivery) : Prop where
  count : (starts.filter (·.kind ≠ .repeating)).length =
    pending +
      (starts.filter fun start =>
        start.kind ≠ .repeating ∧ start.sequence ∈ endings past).length
  order : (onceEndings starts past).Pairwise fun earlier later =>
    earlier.number.toNat < later.number.toNat

/-- No request for one capture is lost, ended twice or overtaken by a later one, and
every drain answers with the number of those that it ended, with or without a session
around the sequencer. -/
theorem turnover_settles :
    (∀ (config : SessionConfig) (surfaces : Surfaces) (steps : List SessionStep),
      let start := World.fresh capabilities config surfaces
      let world := stateAfter SessionStep.perform start steps
      Settles (acceptedStarts start steps) world.channel.pending.length
          (emittedBy SessionStep.perform start steps) ∧
        ∀ step : ChannelStep, step.drains →
          let drained := SessionStep.perform (.channel step) world
          drained.outcome = .ok (.channel
            (.count (onceEndings (acceptedStarts start steps) drained.emitted).length))) ∧
      ∀ (context : CaptureContext) (steps : List SequencerStep),
        context.capabilities = capabilities →
          let start : SequencerStage := ⟨context, {}, {}⟩
          let stage := stateAfter SequencerStage.perform start steps
          Settles (start.starts steps) stage.channel.pending.length
              (emittedBy SequencerStage.perform start steps) ∧
            ∀ step : ChannelStep, step.drains →
              let drained := SequencerStage.perform (.channel step) stage
              drained.outcome = .ok (.channel
                (.count (onceEndings (start.starts steps) drained.emitted).length)) := by
  constructor
  · intro config surfaces steps start world
    have turnover := turnover_session extent config surfaces steps
    have ledger := @Ledger.reached capabilities config surfaces steps
    exact ⟨⟨turnover.count, turnover.pairwise_onceEndings⟩,
      fun step => outcome_drain_session extent ledger⟩
  · intro context steps published start stage
    subst published
    have turnover := turnover_sequencer extent rfl steps
    obtain ⟨same, ledger⟩ := SequencerStage.ledger_run extent steps
    exact ⟨⟨turnover.count, turnover.pairwise_onceEndings⟩,
      fun step => outcome_drain_sequencer ledger (same ▸ extent)⟩

end

def picturesTaken : List SequencerStep :=
  [.startMultiFrame "first", .channel .losePending, .startRepeating "preview",
    .startMultiFrame "second", .abortAll, .startMultiFrame "third"]

theorem turnover_settles_pictures :
    let start : SequencerStage := ⟨{ capabilities := .eyesFree (.ofExtent 4000 3000) }, {}, {}⟩
    let stage := stateAfter SequencerStage.perform start picturesTaken
    stage.channel.pending.length = 1 ∧
      Settles (start.starts picturesTaken) stage.channel.pending.length
        (emittedBy SequencerStage.perform start picturesTaken) :=
  have settled := (@turnover_settles (.eyesFree (.ofExtent 4000 3000))
    (Rect.hasExtent_ofExtent 4000 3000)).2 { capabilities := .eyesFree (.ofExtent 4000 3000) }
    picturesTaken rfl
  ⟨by decide +kernel, settled.1⟩

end EyesFree
