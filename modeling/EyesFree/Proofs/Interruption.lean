import EyesFree.Proofs.Agenda
import EyesFree.Proofs.Captures

namespace EyesFree

/-! Steps that a fault cuts off. Only replayed frames can fail. What was told until then
stays told, requests that left the queue do not come back, and nothing else is changed. -/

namespace ReplayChannel

variable {κ ε : Type} {hear : Hearing κ ε}

/-- Everything told comes of reports about some requests, all of which may be made. -/
def TellsOf (hear : Hearing κ ε) (flights : List (Flight κ)) (made : Report → Prop)
    (told : List ε) : Prop :=
  ∀ event ∈ told, ∃ flight ∈ flights, ∃ report, made report ∧ event ∈ flight.told hear report

namespace TellsOf

variable {flights more : List (Flight κ)} {flight : Flight κ} {made : Report → Prop}
  {first second : List ε}

private theorem mono (tells : TellsOf hear flights made first) (within : flights ⊆ more) :
    TellsOf hear more made first := by
  intro event member
  obtain ⟨flight, flightMember, reported⟩ := tells event member
  exact ⟨flight, within flightMember, reported⟩

private theorem append (left : TellsOf hear flights made first)
    (right : TellsOf hear flights made second) : TellsOf hear flights made (first ++ second) := by
  intro event member
  rcases List.mem_append.mp member with member | member
  · exact left event member
  · exact right event member

private theorem of_made {notices : List (Notice κ)} {outcome : Except Fault Unit}
    (reported : Made hear notices first outcome)
    (allowed : ∀ notice ∈ notices, notice.1 ∈ flights ∧ made notice.2) :
    TellsOf hear flights made first := by
  induction reported with
  | done => exact fun event member => absurd member List.not_mem_nil
  | heard heard rest induction =>
      obtain ⟨within, right⟩ := allowed _ List.mem_cons_self
      refine append ?_ (induction fun other member => allowed other (List.mem_cons_of_mem _ member))
      rw [← Flight.told_of_heard heard]
      exact fun event member => ⟨_, within, _, right, member⟩
  | failed failed => exact fun event member => absurd member List.not_mem_nil

end TellsOf

/-! ## Reports up to a fault -/

theorem replayRepeating_cases {channel : ReplayChannel κ} {flight : Flight κ}
    (running : channel.repeating = some flight) {reports : Nat → List Report}
    {made : Report → Prop} (allowed : ∀ frame, ∀ report ∈ reports frame, made report) :
    replayRepeating hear reports channel =
        ⟨channel.framed, toldFrame hear flight (reports channel.nextFrame), .ok true⟩ ∨
      ∃ told fault, TellsOf hear [flight] made told ∧
        replayRepeating hear reports channel = ⟨channel.framed, told, .error fault⟩ := by
  rw [replayRepeating_apply running]
  obtain ⟨told, outcome, reported, equal⟩ := @made_forM_report κ ε hear flight
    (reports channel.nextFrame) channel.framed
  cases outcome with
  | ok =>
      rw [Activity.bind_of_ok equal, reported.told_of_ok, tell_map_eq_toldFrame]
      exact .inl (by simp)
  | error fault =>
      rw [Activity.bind_of_error equal]
      refine .inr ⟨told, fault, .of_made reported ?_, rfl⟩
      rintro _ member
      obtain ⟨report, reported, rfl⟩ := List.mem_map.mp member
      exact ⟨List.mem_singleton_self flight, allowed _ report reported⟩

theorem drain_cases {reports : Flight κ → Nat → List Report} {made : Report → Prop}
    (allowed : ∀ flight frame, ∀ report ∈ reports flight frame ++
      [.sequenceCompleted flight.channelSequence frame], made report)
    (channel : ReplayChannel κ) :
    drain hear reports channel =
        ⟨channel.drained, toldDrain hear reports channel.nextFrame channel.pending,
          .ok channel.pending.length⟩ ∨
      ∃ nextFrame told fault, TellsOf hear channel.pending made told ∧
        drain hear reports channel =
          ⟨{ channel with pending := [], nextFrame }, told, .error fault⟩ := by
  have taken : takePending channel =
      (⟨{ channel with pending := [] }, [], .ok channel.pending⟩ : Performed _ ε _) := rfl
  obtain ⟨nextFrame, told, outcome, reported, equal, counted⟩ := @made_forM_conclude κ ε hear
    reports channel.pending { channel with pending := [] }
  rw [drain_def, Activity.bind_of_ok taken]
  cases outcome with
  | ok =>
      rw [Activity.bind_of_ok equal, reported.told_of_ok, tell_drainReports, counted rfl]
      exact .inl (by simp [drained])
  | error fault =>
      rw [Activity.bind_of_error equal]
      refine .inr ⟨nextFrame, told, fault, .of_made reported ?_, rfl⟩
      intro notice member
      obtain ⟨flight, frame, carried, report, made, rfl⟩ := exists_of_mem_drainReports member
      exact ⟨carried, allowed flight frame report made⟩

end ReplayChannel

/-! ## Steps of a session -/

def SessionStep.result? : SessionStep → Option CaptureResult
  | .channel (.fireRepeating timestamp) => some (sampleResult timestamp)
  | .channel (.completePending timestamp) => some (sampleResult timestamp)
  | .channel (.completePendingWith result) => some result
  | _ => none

namespace ChannelStep

variable {step : ChannelStep} {result : CaptureResult}

private theorem result?_of_mem_repeatingReports {reports : Nat → List Report}
    (about : step.repeatingReports? = some reports) {frame : Nat}
    (member : .completed result ∈ reports frame) :
    (SessionStep.channel step).result? = some result := by
  cases step with
  | fireRepeating timestamp =>
      cases about
      simp only [List.mem_cons, reduceCtorEq, List.not_mem_nil, or_false, false_or,
        Report.completed.injEq] at member
      rw [member]
      rfl
  | failRepeating reason =>
      cases about
      simp at member
  | _ => cases about

private theorem result?_of_mem_pendingReports {reports : Flight Subscription → Nat → List Report}
    (about : step.pendingReports? = some reports) {flight : Flight Subscription} {frame : Nat}
    (member : .completed result ∈ reports flight frame) :
    (SessionStep.channel step).result? = some result := by
  cases step with
  | completePending timestamp =>
      cases about
      simp only [List.mem_cons, reduceCtorEq, List.not_mem_nil, or_false, false_or,
        Report.completed.injEq] at member
      rw [member]
      rfl
  | completePendingWith reported =>
      cases about
      simp only [List.mem_cons, reduceCtorEq, List.not_mem_nil, or_false, false_or,
        Report.completed.injEq] at member
      rw [member]
      rfl
  | failPending reason =>
      cases about
      simp at member
  | losePending =>
      cases about
      simp at member
  | _ => cases about

end ChannelStep

/-- A step may make a report: a result that it reports is its own. -/
def SessionStep.Makes (step : SessionStep) (report : Report) : Prop :=
  ∀ result, report = .completed result → step.result? = some result

/-- A step of a session as far as its captures are concerned: a move, or a replay
that a fault cut off. -/
inductive CaptureStep (captures : Captures) (step : SessionStep) :
    List Delivery → Except Fault Reply → Captures → Prop
  | moved {emitted outcome after} (move : CaptureMove captures step emitted outcome after) :
      CaptureStep captures step emitted outcome after
  | cut {emitted fault pending nextFrame}
      (remaining : pending.Sublist captures.channel.pending)
      (tells : ReplayChannel.TellsOf captures.context.hear
        (captures.channel.repeating.toList ++ captures.channel.pending) step.Makes emitted) :
      CaptureStep captures step emitted (.error fault)
        { captures with channel := { captures.channel with pending, nextFrame } }

namespace SessionStep

variable {world : ReplayWorld}

theorem makes_of_repeatingReports {step : ChannelStep} {reports : Nat → List Report}
    (about : step.repeatingReports? = some reports) (frame : Nat) :
    ∀ report ∈ reports frame, (SessionStep.channel step).Makes report := by
  rintro _ member result rfl
  exact ChannelStep.result?_of_mem_repeatingReports about member

theorem makes_of_pendingReports {step : ChannelStep}
    {reports : Flight Subscription → Nat → List Report}
    (about : step.pendingReports? = some reports) (flight : Flight Subscription) (frame : Nat) :
    ∀ report ∈ reports flight frame ++ [.sequenceCompleted flight.channelSequence frame],
      (SessionStep.channel step).Makes report := by
  rintro _ member result rfl
  rcases List.mem_append.mp member with reported | last
  · exact ChannelStep.result?_of_mem_pendingReports about reported
  · cases List.mem_singleton.mp last

private theorem captureStep_channel (step : ChannelStep) :
    let performed := (SessionStep.channel step).perform world
    CaptureStep world.captures (.channel step) performed.emitted performed.outcome
      performed.state.captures := by
  simp only [perform, Activity.bind_pure_apply, World.onChannel_eq]
  rcases step.cases_reports with ⟨rejecting, rfl⟩ | ⟨reports, about⟩ | ⟨reports, about⟩
  · exact .moved (.switch rejecting)
  · cases running : world.channel.repeating with
    | none =>
        rw [ChannelStep.perform_eq_of_idle about running]
        exact .moved (.stay (by simp [Except.map]))
    | some flight =>
        rw [ChannelStep.perform_of_repeatingReports about, Activity.bind_pure_apply]
        rcases ReplayChannel.replayRepeating_cases running (makes_of_repeatingReports about) with
          made | ⟨told, fault, tells, made⟩
        · rw [made]
          exact .moved (@CaptureMove.frame world.captures _ _ _ about running)
        · rw [made]
          have carried : [flight] ⊆ world.channel.repeating.toList ++ world.channel.pending := by
            simp [running]
          exact .cut (List.Sublist.refl world.channel.pending) (tells.mono carried)
  · rw [ChannelStep.perform_of_pendingReports about, Activity.bind_pure_apply]
    rcases ReplayChannel.drain_cases (makes_of_pendingReports about) world.channel with
      drained | ⟨nextFrame, told, fault, tells, cut⟩
    · rw [drained]
      exact .moved (@CaptureMove.drain world.captures _ _ about)
    · rw [cut]
      exact .cut (List.nil_sublist _) (tells.mono (List.subset_append_right _ _))

/-- Every step of a session is a move of its captures or a replay that was cut off, as long
as an active session has a sequencer. -/
theorem captureStep (lively : world.session.state = .active → world.session.sequencer.isSome)
    (step : SessionStep) :
    let performed := step.perform world
    CaptureStep world.captures step performed.emitted performed.outcome
      performed.state.captures := by
  cases step with
  | operation operation => exact .moved (moves_operation lively operation)
  | channel step => exact captureStep_channel step
  | surroundings step => exact .moved (moves_surroundings step)

end SessionStep

end EyesFree
