import EyesFree.Proofs.Agenda
import EyesFree.Proofs.Bundle
import EyesFree.Proofs.Numbering

namespace EyesFree

/-! Which arithmetic can fail in a session: only the subtraction of the edges of the
active array, and it is carried out only for a result with a timestamp of a request
whose image is locked. -/

/-! ## Reports that fail -/

def Notice.NeedsTarget {κ : Type} (notice : Notice κ) : Prop :=
  ∃ result timestamp, notice.2 = .completed result ∧ result.sensorTimestamp = some timestamp ∧
    notice.1.request.parameters.get? .stabilizationMode = some StabilizationMode.locked.toValue

namespace Subscription

variable {capabilities : Capabilities} {subscription : Subscription} {request : Request}
  {report : Report} {fault : Fault}

private theorem events_eq_error_iff :
    subscription.events capabilities request report = .error fault ↔
      ∃ result timestamp, report = .completed result ∧ result.sensorTimestamp = some timestamp ∧
        capabilities.synthesize request.parameters result = .error fault := by
  cases report with
  | completed result =>
      cases timed : result.sensorTimestamp with
      | none => simp [events_eq_of_untimed timed, timed]
      | some timestamp =>
          cases synthesized : capabilities.synthesize request.parameters result with
          | ok bundle => simp [events_eq_of_timed timed synthesized, synthesized]
          | error other => simp [events_eq_of_fault timed synthesized, timed, synthesized]
  | _ => simp [Subscription.events]

private theorem deliveries_eq_error_iff {ended : Bool} :
    deliveries capabilities ended subscription request report = .error fault ↔
      ¬(subscription.kind = .repeating ∧ ended) ∧
        subscription.events capabilities request report = .error fault := by
  unfold deliveries
  by_cases held : subscription.kind = .repeating ∧ ended
  · simp [held]
  · cases subscription.events capabilities request report <;>
      simp [held, bind, Except.bind, pure, Except.pure]

end Subscription

private theorem CaptureContext.hear_eq_error_iff {context : CaptureContext}
    {notice : Notice Subscription} {fault : Fault}
    (unheld : ¬(notice.1.client.kind = .repeating ∧ context.ended)) :
    context.hear notice.1.client notice.1.request notice.2 = .error fault ↔
      fault = .subtraction ∧ ¬context.capabilities.activeArray.HasExtent ∧
        notice.NeedsTarget := by
  rw [hear, Subscription.deliveries_eq_error_iff, Subscription.events_eq_error_iff]
  simp only [Capabilities.synthesize_eq_error_iff, Rect.targetCoordinates_eq_error_iff,
    Snapshot.locked_iff, Notice.NeedsTarget]
  constructor
  · rintro ⟨_, result, timestamp, completed, timed, stable, subtracted, extent⟩
    exact ⟨subtracted, extent, result, timestamp, completed, timed, stable⟩
  · rintro ⟨subtracted, extent, result, timestamp, completed, timed, stable⟩
    exact ⟨unheld, result, timestamp, completed, timed, stable, subtracted, extent⟩

/-! ## Steps that fail -/

private theorem ChannelStep.flight_of_mem_agenda {κ : Type} {step : ChannelStep}
    {channel : ReplayChannel κ} {notice : Notice κ} (member : notice ∈ step.agenda channel) :
    notice.1 ∈ channel.repeating.toList ++ channel.pending := by
  unfold agenda at member
  split at member
  · obtain ⟨flight, running, made⟩ := List.mem_flatMap.mp member
    obtain ⟨report, _, rfl⟩ := List.mem_map.mp made
    exact List.mem_append_left _ running
  · obtain ⟨flight, _, pending, _, _, rfl⟩ := ReplayChannel.exists_of_mem_drainReports member
    exact List.mem_append_right _ pending
  · cases member

namespace SessionStep

def agenda (world : ReplayWorld) : SessionStep → List (Notice Subscription)
  | .channel step => step.agenda world.channel
  | _ => []

variable {capabilities : Capabilities} {starts : List Start} {world : ReplayWorld}
  (ledger : Ledger capabilities starts world.captures)
include ledger

/-- Nothing about a request that is still in the channel is held back, so that a report on
it fails exactly if it needs a target that does not exist. -/
theorem hear_eq_error_iff {step : SessionStep} {notice : Notice Subscription}
    (member : notice ∈ step.agenda world) {fault : Fault} :
    world.session.context.hear notice.1.client notice.1.request notice.2 = .error fault ↔
      fault = .subtraction ∧ ¬capabilities.activeArray.HasExtent ∧ notice.NeedsTarget := by
  have published : world.session.context.capabilities = capabilities := ledger.published
  rw [← published]
  apply CaptureContext.hear_eq_error_iff
  rintro ⟨_, ended⟩
  have empty : world.captures.flights = [] := ledger.flights_eq_nil ended
  cases step with
  | channel about =>
      have carried : notice.1 ∈ world.captures.flights := about.flight_of_mem_agenda member
      rw [empty] at carried
      cases carried
  | _ => cases member

private theorem made_or_answered (step : SessionStep) :
    let performed := step.perform world
    ReplayChannel.Made world.session.context.hear (step.agenda world) performed.emitted
        (performed.outcome.map fun _ => ()) ∨
      step.agenda world = [] ∧ ∃ reply, performed.outcome = .ok reply := by
  cases step with
  | operation operation => exact .inr ⟨rfl, (operation.answered ledger.lively).exists_reply⟩
  | surroundings step => exact .inr ⟨rfl, by cases step <;> exact ⟨_, rfl⟩⟩
  | channel about =>
      have made := @ChannelStep.made_perform _ _ world.session.context.hear about world.channel
      simp only [perform, Activity.bind_pure_apply, World.onChannel_eq] at made ⊢
      cases outcome : (about.perform world.session.context.hear world.channel).outcome <;>
        rw [outcome] at made <;> exact .inl made

private theorem fails_iff (step : SessionStep) :
    (∃ fault, (step.perform world).outcome = .error fault) ↔
      ¬capabilities.activeArray.HasExtent ∧ ∃ notice ∈ step.agenda world, notice.NeedsTarget := by
  rcases made_or_answered ledger step with made | ⟨silent, reply, answered⟩
  · have ends : (∃ fault, (step.perform world).outcome = .error fault) ↔
        ∃ fault, (step.perform world).outcome.map (fun _ => ()) = .error fault := by
      cases (step.perform world).outcome <;> simp [Except.map]
    rw [ends, made.error_iff]
    constructor
    · rintro ⟨notice, member, fault, failed⟩
      obtain ⟨_, extent, needed⟩ := (hear_eq_error_iff ledger member).mp failed
      exact ⟨extent, notice, member, needed⟩
    · rintro ⟨extent, notice, member, needed⟩
      exact ⟨notice, member, _, (hear_eq_error_iff ledger member).mpr ⟨rfl, extent, needed⟩⟩
  · simp [silent, answered]

/-- A step that fails is cut short at the first report that needs a target. The reports
before it are told. -/
theorem cut_short {step : SessionStep} {fault : Fault}
    (failed : (step.perform world).outcome = .error fault) :
    fault = .subtraction ∧ ∃ earlier notice later,
      step.agenda world = earlier ++ notice :: later ∧ Notice.NeedsTarget notice ∧
        (∀ other ∈ earlier, ¬Notice.NeedsTarget other) ∧
        (step.perform world).emitted =
          ReplayChannel.tell world.session.context.hear earlier := by
  rcases made_or_answered ledger step with made | ⟨_, reply, answered⟩
  · rw [failed] at made
    obtain ⟨earlier, notice, later, agenda, failed, before, told⟩ := made.split_of_error
    have member : notice ∈ step.agenda world := by simp [agenda]
    obtain ⟨subtracted, extent, needed⟩ := (hear_eq_error_iff ledger member).mp failed
    refine ⟨subtracted, earlier, notice, later, agenda, needed, ?_, told⟩
    intro other otherMember otherNeeded
    obtain ⟨events, heard⟩ := before other otherMember
    have member : other ∈ step.agenda world := by simp [agenda, otherMember]
    have missed := (hear_eq_error_iff ledger member).mpr ⟨rfl, extent, otherNeeded⟩
    rw [heard] at missed
    cases missed
  · rw [answered] at failed
    cases failed

end SessionStep

/-! ## Overflow -/

/-- A result overflows exactly if the image is locked and the width or the height of the
active array is no 32-bit integer; nothing that is computed from half an extent does. So in
a run a step fails exactly if it reports a result with a timestamp of a locked request and
the active array is that large. What was told before, in the step itself and in the run,
remains told whatever follows. -/
theorem overflow_confined (capabilities : Capabilities) :
    let array := capabilities.activeArray
    let fits := IsInt32 (array.right.toInt - array.left.toInt) ∧
      IsInt32 (array.bottom.toInt - array.top.toInt)
    (∀ snapshot result fault, capabilities.synthesize snapshot result = .error fault ↔
      fault = .subtraction ∧ ¬fits ∧
        snapshot.get? .stabilizationMode = some StabilizationMode.locked.toValue) ∧
    (∀ extent : Int32, (extent / 2).toInt = extent.toInt.tdiv 2 ∧
      ∃ low high, subInt32 (extent / 2) targetHalfExtent = .ok low ∧
        addInt32 (extent / 2) targetHalfExtent = .ok high ∧
        low.toInt = extent.toInt.tdiv 2 - 5 ∧ high.toInt = extent.toInt.tdiv 2 + 5) ∧
    ∀ config surfaces past step,
      let fresh := World.fresh capabilities config surfaces
      let world := stateAfter SessionStep.perform fresh past
      let performed := step.perform world
      (fits → ∃ reply, performed.outcome = .ok reply) ∧
      ((∃ fault, performed.outcome = .error fault) ↔
        ¬fits ∧ ∃ notice ∈ step.agenda world, notice.NeedsTarget) ∧
      ∀ fault, performed.outcome = .error fault →
        fault = .subtraction ∧ ∃ earlier notice later,
          step.agenda world = earlier ++ notice :: later ∧ Notice.NeedsTarget notice ∧
            (∀ other ∈ earlier, ¬Notice.NeedsTarget other) ∧
            performed.emitted = ReplayChannel.tell world.session.context.hear earlier ∧
            ∀ rest, emittedBy SessionStep.perform fresh past ++ performed.emitted <+:
              emittedBy SessionStep.perform fresh (past ++ step :: rest) := by
  intro array fits
  have extent : array.HasExtent ↔ fits := Rect.hasExtent_iff
  refine ⟨?_, ?_, ?_⟩
  · intro snapshot result fault
    rw [Capabilities.synthesize_eq_error_iff, Snapshot.locked_iff,
      Rect.targetCoordinates_eq_error_iff, extent]
    tauto
  · intro extent
    have margin : targetHalfExtent.toInt = 5 := by decide
    refine ⟨toInt_half extent, _, _, subInt32_half_eq_ok extent, addInt32_half_eq_ok extent, ?_, ?_⟩
    · rw [toInt_of_toInt32 (subInt32_half_eq_ok extent), toInt_half, margin]
    · rw [toInt_of_toInt32 (addInt32_half_eq_ok extent), toInt_half, margin]
  · intro config surfaces past step fresh world performed
    have ledger := @Ledger.reached capabilities config surfaces past
    have fails := SessionStep.fails_iff ledger step
    rw [show capabilities.activeArray.HasExtent ↔ fits from extent] at fails
    refine ⟨?_, fails, ?_⟩
    · intro fit
      cases outcome : performed.outcome with
      | ok reply => exact ⟨reply, rfl⟩
      | error fault => exact absurd fit (fails.mp ⟨fault, outcome⟩).1
    · intro fault failed
      obtain ⟨subtracted, earlier, notice, later, agenda, needed, before, told⟩ :=
        SessionStep.cut_short ledger failed
      refine ⟨subtracted, earlier, notice, later, agenda, needed, before, told, fun rest => ?_⟩
      rw [emittedBy_append, emittedBy_cons, ← List.append_assoc]
      exact List.prefix_append _ _

def wideArray : Rect := ⟨-2147483648, 0, 2147483647, 3000⟩

def lockedAfterStill : List SessionStep :=
  [.operation (.initSession "0" .absent .absent), .operation .startSession,
    .operation (.startMultiFrame "still"),
    .operation (.startTrigger (.ofEntries [(.stabilizationMode, .int 2)]) "focus")]

/-- The still is completed, and the trigger is told about up to its result. -/
theorem overflow_confined_wide :
    let fresh := World.fresh (.eyesFree wideArray) ⟨4, "relay"⟩ {}
    let world := stateAfter SessionStep.perform fresh lockedAfterStill
    let step := SessionStep.channel (.completePending 7)
    let performed := step.perform world
    (∃ notice ∈ step.agenda world, notice.NeedsTarget) ∧
      performed.outcome = .error .subtraction ∧
      (performed.emitted.map fun delivery => (delivery.receiver, delivery.event.sequence)) =
        [("still", ⟨1⟩), ("still", ⟨1⟩), ("still", ⟨1⟩), ("focus", ⟨2⟩)] ∧
      ∀ rest, emittedBy SessionStep.perform fresh lockedAfterStill ++ performed.emitted <+:
        emittedBy SessionStep.perform fresh (lockedAfterStill ++ step :: rest) := by
  intro fresh world step performed
  have failed : performed.outcome = .error .subtraction := by decide +kernel
  obtain ⟨_, _, run⟩ := overflow_confined (.eyesFree wideArray)
  obtain ⟨_, fails, kept⟩ := run ⟨4, "relay"⟩ {} lockedAfterStill step
  obtain ⟨_, _, _, _, _, _, _, _, remains⟩ := kept _ failed
  exact ⟨(fails.mp ⟨_, failed⟩).2, failed, by decide +kernel, remains⟩

end EyesFree
