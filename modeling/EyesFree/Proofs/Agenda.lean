import EyesFree.Proofs.Channel
import Mathlib.Data.List.Basic

namespace EyesFree

/-! The reports that a step of the replaying channel makes, in order, and what comes
of them. They are made up to the first one that fails; what came of those before it
is told all the same. -/

abbrev Notice (κ : Type) := Flight κ × Report

theorem Flight.told_of_heard {κ ε : Type} {hear : Hearing κ ε} {flight : Flight κ}
    {report : Report} {events : List ε}
    (heard : hear flight.client flight.request report = .ok events) :
    flight.told hear report = events := by
  simp [told, Hearing.told, heard]

namespace ReplayChannel

variable {κ ε : Type}

/-- What comes of reports, each about a request. -/
def tell (hear : Hearing κ ε) (reports : List (Flight κ × Report)) : List ε :=
  reports.flatMap fun (flight, report) => flight.told hear report

variable {hear : Hearing κ ε}

@[simp] theorem tell_nil : tell hear [] = [] := rfl

theorem tell_cons (flight : Flight κ) (report : Report) (rest : List (Flight κ × Report)) :
    tell hear ((flight, report) :: rest) = flight.told hear report ++ tell hear rest := rfl

theorem tell_map_eq_toldFrame (flight : Flight κ) (reports : List Report) :
    tell hear (reports.map (flight, ·)) = toldFrame hear flight reports := List.flatMap_map ..

/-- What comes of reports that are made one after the other, up to one that fails. -/
inductive Made (hear : Hearing κ ε) : List (Notice κ) → List ε → Except Fault Unit → Prop
  | done : Made hear [] [] (.ok ())
  | heard {notice rest events told outcome}
      (heard : hear notice.1.client notice.1.request notice.2 = .ok events)
      (made : Made hear rest told outcome) :
      Made hear (notice :: rest) (events ++ told) outcome
  | failed {notice rest fault}
      (failed : hear notice.1.client notice.1.request notice.2 = .error fault) :
      Made hear (notice :: rest) [] (.error fault)

namespace Made

variable {first second : List (Notice κ)} {told more : List ε} {outcome : Except Fault Unit}
  {fault : Fault}

private theorem append_of_ok (made : Made hear first told (.ok ()))
    (rest : Made hear second more outcome) :
    Made hear (first ++ second) (told ++ more) outcome := by
  generalize succeeded : (.ok () : Except Fault Unit) = ended at made
  induction made with
  | done => exact rest
  | heard heard made induction =>
      rw [List.append_assoc]
      exact .heard heard (induction succeeded)
  | failed failed => cases succeeded

private theorem append_of_error (made : Made hear first told (.error fault))
    (second : List (Notice κ)) :
    Made hear (first ++ second) told (.error fault) := by
  generalize ended : (.error fault : Except Fault Unit) = outcome at made ⊢
  induction made with
  | done => cases ended
  | heard heard made induction => exact .heard heard (induction ended)
  | failed failed => exact .failed failed

theorem error_iff (made : Made hear first told outcome) :
    (∃ fault, outcome = .error fault) ↔
      ∃ notice ∈ first, ∃ fault,
        hear notice.1.client notice.1.request notice.2 = .error fault := by
  induction made with
  | done => simp
  | heard heard made induction => simp [induction, heard]
  | failed failed => simp [failed]

theorem told_of_ok (made : Made hear first told (.ok ())) :
    told = tell hear first := by
  generalize succeeded : (.ok () : Except Fault Unit) = outcome at made
  induction made with
  | done => rfl
  | heard heard made induction =>
      rw [induction succeeded, ← Flight.told_of_heard heard]
      rfl
  | failed failed => cases succeeded

/-- Of reports that end with a fault, those before the first one that fails are told. -/
theorem split_of_error (made : Made hear first told (.error fault)) :
    ∃ earlier notice later, first = earlier ++ notice :: later ∧
      hear notice.1.client notice.1.request notice.2 = .error fault ∧
      (∀ other ∈ earlier, ∃ events,
        hear other.1.client other.1.request other.2 = .ok events) ∧
      told = tell hear earlier := by
  generalize ended : (.error fault : Except Fault Unit) = outcome at made
  induction made with
  | done => cases ended
  | @heard first rest events told outcome heard made induction =>
      obtain ⟨earlier, notice, later, rfl, failed, before, rfl⟩ := induction ended
      refine ⟨first :: earlier, notice, later, rfl, failed, ?_, ?_⟩
      · intro other member
        rcases List.mem_cons.mp member with rfl | member
        · exact ⟨events, heard⟩
        · exact before other member
      · rw [← Flight.told_of_heard heard]
        rfl
  | @failed notice rest other failed =>
      cases ended
      exact ⟨[], notice, rest, rfl, failed, by simp, rfl⟩

end Made

/-! ## Steps -/

theorem made_forM_report (flight : Flight κ) (reports : List Report) (channel : ReplayChannel κ) :
    ∃ told outcome, Made hear (reports.map (flight, ·)) told outcome ∧
      reports.forM (report hear flight) channel = ⟨channel, told, outcome⟩ := by
  induction reports with
  | nil => exact ⟨[], .ok (), .done, rfl⟩
  | cons about rest induction =>
      rw [Activity.forM_cons]
      cases heard : hear flight.client flight.request about with
      | error fault =>
          have made : report hear flight about channel = ⟨channel, [], .error fault⟩ := by
            simp [report, Activity.bind_apply, heard]
          rw [Activity.bind_of_error made]
          exact ⟨[], .error fault, .failed heard, rfl⟩
      | ok events =>
          have made : report hear flight about channel = ⟨channel, events, .ok ()⟩ := by
            simp [report, Activity.bind_apply, heard]
          obtain ⟨told, outcome, later, equal⟩ := induction
          rw [Activity.bind_of_ok made, equal]
          exact ⟨events ++ told, outcome, .heard heard later, rfl⟩

/-- A frame of each request under the next number, and its end. -/
def drainReports (reports : Flight κ → Nat → List Report) (frame : Nat)
    (flights : List (Flight κ)) : List (Flight κ × Report) :=
  (flights.zipIdx frame).flatMap fun (flight, frame) =>
    (reports flight frame ++ [Report.sequenceCompleted flight.channelSequence frame]).map
      (flight, ·)

theorem drainReports_cons (reports : Flight κ → Nat → List Report) (frame : Nat)
    (flight : Flight κ) (rest : List (Flight κ)) :
    drainReports reports frame (flight :: rest) =
      (reports flight frame ++ [Report.sequenceCompleted flight.channelSequence frame]).map
          (flight, ·) ++
        drainReports reports (frame + 1) rest := rfl

theorem exists_of_mem_drainReports {reports : Flight κ → Nat → List Report} {frame : Nat}
    {flights : List (Flight κ)} {notice : Notice κ}
    (member : notice ∈ drainReports reports frame flights) :
    ∃ flight number, flight ∈ flights ∧
      ∃ report ∈ reports flight number ++ [.sequenceCompleted flight.channelSequence number],
        notice = (flight, report) := by
  obtain ⟨⟨flight, number⟩, numbered, made⟩ := List.mem_flatMap.mp member
  obtain ⟨report, reported, rfl⟩ := List.mem_map.mp made
  exact ⟨flight, number, List.fst_mem_of_mem_zipIdx numbered, report, reported, rfl⟩

theorem mem_of_mem_drainReports {reports : Flight κ → Nat → List Report} {frame : Nat}
    {flights : List (Flight κ)} {flight : Flight κ} {report : Report}
    (member : (flight, report) ∈ drainReports reports frame flights) : flight ∈ flights := by
  obtain ⟨_, _, present, _, _, same⟩ := exists_of_mem_drainReports member
  cases same
  exact present

theorem made_forM_conclude (reports : Flight κ → Nat → List Report) (flights : List (Flight κ))
    (channel : ReplayChannel κ) :
    ∃ nextFrame told outcome,
      Made hear (drainReports reports channel.nextFrame flights) told outcome ∧
        flights.forM (conclude hear reports) channel =
          ⟨{ channel with nextFrame }, told, outcome⟩ ∧
        (outcome = .ok () → nextFrame = channel.nextFrame + flights.length) := by
  induction flights generalizing channel with
  | nil => exact ⟨channel.nextFrame, [], .ok (), .done, rfl, fun _ => rfl⟩
  | cons flight rest induction =>
      have first := @conclude_apply κ ε hear reports flight channel
      obtain ⟨told, outcome, made, equal⟩ := @made_forM_report κ ε hear flight
        (reports flight channel.nextFrame ++
          [.sequenceCompleted flight.channelSequence channel.nextFrame]) channel.framed
      rw [Activity.forM_cons, drainReports_cons]
      cases outcome with
      | ok =>
          obtain ⟨nextFrame, more, outcome, later, concluded, counted⟩ := induction channel.framed
          rw [Activity.bind_of_ok (first.trans equal), concluded]
          refine ⟨nextFrame, told ++ more, outcome, made.append_of_ok later, rfl, ?_⟩
          intro succeeded
          rw [counted succeeded, framed_nextFrame, List.length_cons, Nat.add_assoc, Nat.add_comm 1]
      | error fault =>
          rw [Activity.bind_of_error (first.trans equal)]
          exact ⟨channel.nextFrame + 1, told, .error fault, made.append_of_error _, rfl, nofun⟩

theorem tell_drainReports (reports : Flight κ → Nat → List Report) (frame : Nat)
    (flights : List (Flight κ)) :
    tell hear (drainReports reports frame flights) = toldDrain hear reports frame flights := by
  rw [tell, drainReports, List.flatMap_assoc]
  exact List.flatMap_congr fun _ _ => tell_map_eq_toldFrame _ _

def endReports (channel : ReplayChannel κ) : List (Notice κ) :=
  channel.repeating.toList.map fun flight =>
    (flight, .sequenceCompleted flight.channelSequence channel.nextFrame)

def abortReports (channel : ReplayChannel κ) : List (Notice κ) :=
  (channel.repeating.toList ++ channel.pending).map fun flight =>
    (flight, .sequenceAborted flight.channelSequence)

theorem tell_endReports (channel : ReplayChannel κ) :
    tell hear channel.endReports =
      channel.repeating.toList.flatMap (toldEnd hear channel.nextFrame) := List.flatMap_map ..

theorem tell_abortReports (channel : ReplayChannel κ) :
    tell hear channel.abortReports =
      (channel.repeating.toList ++ channel.pending).flatMap (toldAbort hear) :=
  List.flatMap_map ..

theorem mem_of_mem_endReports {channel : ReplayChannel κ} {flight : Flight κ} {report : Report}
    (member : (flight, report) ∈ channel.endReports) : channel.repeating = some flight := by
  obtain ⟨_, running, same⟩ := List.mem_map.mp member
  cases same
  exact Option.mem_toList.mp running

theorem mem_of_mem_abortReports {channel : ReplayChannel κ} {flight : Flight κ} {report : Report}
    (member : (flight, report) ∈ channel.abortReports) :
    channel.repeating = some flight ∨ flight ∈ channel.pending := by
  obtain ⟨_, present, same⟩ := List.mem_map.mp member
  cases same
  exact (List.mem_append.mp present).imp_left Option.mem_toList.mp

end ReplayChannel

namespace ChannelStep

variable {κ ε : Type} {hear : Hearing κ ε}

/-- The reports that a step is about to make, each with the request it is about. -/
def agenda (channel : ReplayChannel κ) (step : ChannelStep) : List (Notice κ) :=
  match step.repeatingReports?, step.pendingReports? with
  | some reports, _ =>
      channel.repeating.toList.flatMap fun flight =>
        (reports channel.nextFrame).map (flight, ·)
  | none, some reports =>
      ReplayChannel.drainReports reports channel.nextFrame channel.pending
  | none, none => []

theorem agenda_of_repeatingReports {step : ChannelStep} {reports : Nat → List Report}
    (about : step.repeatingReports? = some reports) (channel : ReplayChannel κ) :
    step.agenda channel = channel.repeating.toList.flatMap fun flight =>
      (reports channel.nextFrame).map (flight, ·) := by
  rw [agenda, about]

theorem agenda_of_pendingReports {step : ChannelStep} {reports : Flight κ → Nat → List Report}
    (about : step.pendingReports? = some reports) (channel : ReplayChannel κ) :
    step.agenda channel =
      ReplayChannel.drainReports reports channel.nextFrame channel.pending := by
  have once : step.repeatingReports? = none := by cases step <;> cases about <;> rfl
  rw [agenda, once, about]

/-- A step makes the reports of its agenda, in order, up to one that fails. -/
theorem made_perform (step : ChannelStep) (channel : ReplayChannel κ) :
    let performed := step.perform hear channel
    ReplayChannel.Made hear (step.agenda channel) performed.emitted
      (performed.outcome.map fun _ => ()) := by
  rcases step.cases_reports (κ := κ) with ⟨rejecting, rfl⟩ | ⟨reports, about⟩ | ⟨reports, about⟩
  · exact .done
  · rw [agenda_of_repeatingReports about]
    cases running : channel.repeating with
    | none =>
        rw [perform_eq_of_idle about running]
        exact .done
    | some flight =>
        obtain ⟨told, outcome, made, equal⟩ := @ReplayChannel.made_forM_report κ ε hear flight
          (reports channel.nextFrame) channel.framed
        rw [perform_of_repeatingReports about, Activity.bind_pure_apply,
          ReplayChannel.replayRepeating_apply running, Activity.bind_pure_apply, equal,
          Option.toList_some, List.flatMap_singleton]
        cases outcome <;> exact made
  · rw [agenda_of_pendingReports about, perform_of_pendingReports about, Activity.bind_pure_apply,
      ReplayChannel.drain_def]
    have taken : ReplayChannel.takePending channel =
        (⟨{ channel with pending := [] }, [], .ok channel.pending⟩ : Performed _ ε _) := rfl
    obtain ⟨_, told, outcome, made, equal, _⟩ := @ReplayChannel.made_forM_conclude κ ε hear
      reports channel.pending { channel with pending := [] }
    rw [Activity.bind_of_ok taken, Activity.bind_pure_apply, equal]
    cases outcome <;> exact made

end ChannelStep

end EyesFree
