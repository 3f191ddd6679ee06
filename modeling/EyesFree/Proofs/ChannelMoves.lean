import EyesFree.Proofs.Agenda

namespace EyesFree

/-! What an action of the replaying channel does, said once, apart from what its
clients hear of it: which requests it takes, which reports it makes, and the channel
after it. Each report is about a request in the channel, and a request leaves the
channel with the report of its end. -/

/-! ## Reports -/

namespace Report

def frame? : Report → Option Nat
  | .started frame _ | .failed frame _ | .bufferLost frame _ | .sequenceCompleted _ frame =>
      some frame
  | .progressed _ | .completed _ | .sequenceAborted _ => none

/-- The channel's number for the request whose end is reported. -/
def ends? : Report → Option Int32
  | .sequenceCompleted channelSequence _ | .sequenceAborted channelSequence =>
      some channelSequence
  | _ => none

end Report

namespace ChannelStep

variable {κ : Type} {step : ChannelStep}

theorem repeatingReports_eq {reports : Nat → List Report}
    (about : step.repeatingReports? = some reports) (frame : Nat) :
    (reports frame).filterMap Report.frame? = [frame] ∧
      ∀ report ∈ reports frame, report.ends? = none := by
  cases step <;> cases about <;> simp [Report.frame?, Report.ends?]

theorem pendingReports_eq {reports : Flight κ → Nat → List Report}
    (about : step.pendingReports? = some reports) (flight : Flight κ) (frame : Nat) :
    (reports flight frame).filterMap Report.frame? = [frame] ∧
      ∀ report ∈ reports flight frame, report.ends? = none := by
  cases step <;> cases about <;> simp [Report.frame?, Report.ends?]

end ChannelStep

/-! ## Actions -/

def ReplayChannel.flights {κ : Type} (channel : ReplayChannel κ) : List (Flight κ) :=
  channel.repeating.toList ++ channel.pending

namespace ChannelAction

variable {κ ε : Type}

/-- The request that an action submits and the channel takes, under the
number that it answers. -/
def accepted (hear : Hearing κ ε) (channel : ReplayChannel κ) (action : ChannelAction κ) :
    List (Flight κ) :=
  match action, (action.perform hear channel).outcome with
  | .call (.submit client request), .ok (.call (some channelSequence))
  | .call (.setRepeating client request), .ok (.call (some channelSequence)) =>
      [⟨channelSequence, request, client⟩]
  | _, _ => []

def agenda (channel : ReplayChannel κ) : ChannelAction κ → List (Notice κ)
  | .call (.submit _ _) => []
  | .call (.setRepeating _ _) => if channel.rejecting then [] else channel.endReports
  | .call .stopRepeating => channel.endReports
  | .call .abortCaptures => channel.abortReports
  | .replay step => step.agenda channel

end ChannelAction

/-- Which requests an action takes, which reports it makes, and the channel after it. -/
inductive ChannelMove {κ : Type} (channel : ReplayChannel κ) :
    List (Flight κ) → List (Notice κ) → ReplayChannel κ → Prop
  | stay : ChannelMove channel [] [] channel
  | switch (rejecting : Bool) : ChannelMove channel [] [] { channel with rejecting }
  /-- A request for one capture becomes pending. -/
  | enqueue (client : κ) (request : Request) :
      ChannelMove channel [⟨channel.nextSequence, request, client⟩] []
        (channel.enqueued ⟨channel.nextSequence, request, client⟩)
  /-- A repeating request takes the slot. The one that was there before is completed. -/
  | renew (client : κ) (request : Request) :
      ChannelMove channel [⟨channel.nextSequence, request, client⟩] channel.endReports
        (channel.renewed ⟨channel.nextSequence, request, client⟩)
  | stop : ChannelMove channel [] channel.endReports channel.stopped
  | abort : ChannelMove channel [] channel.abortReports channel.aborted
  /-- There are reports on a frame of the request in the slot. -/
  | frame {step reports flight} (about : ChannelStep.repeatingReports? step = some reports)
      (running : channel.repeating = some flight) :
      ChannelMove channel [] ((reports channel.nextFrame).map (flight, ·)) channel.framed
  /-- There are reports on a frame of all pending requests, which end. -/
  | drain {step reports} (about : ChannelStep.pendingReports? step = some reports) :
      ChannelMove channel []
        (ReplayChannel.drainReports reports channel.nextFrame channel.pending) channel.drained

namespace ChannelAction

variable {κ ε : Type} {hear : Hearing κ ε}

def Moves (hear : Hearing κ ε) (channel : ReplayChannel κ) (action : ChannelAction κ) : Prop :=
  let performed := action.perform hear channel
  ChannelMove channel (action.accepted hear channel) (action.agenda channel) performed.state ∧
    performed.emitted = ReplayChannel.tell hear (action.agenda channel) ∧
    ∃ reply, performed.outcome = .ok reply

private theorem moves_submit (client : κ) (request : Request) (channel : ReplayChannel κ) :
    (ChannelAction.call (.submit client request)).Moves hear channel := by
  cases rejecting : channel.rejecting with
  | true =>
      simp only [Moves, accepted, agenda, perform, ChannelCall.perform, Activity.bind_pure_apply,
        ReplayChannel.submit_eq_of_rejecting rejecting]
      exact ⟨.stay, rfl, _, rfl⟩
  | false =>
      simp only [Moves, accepted, agenda, perform, ChannelCall.perform, Activity.bind_pure_apply,
        ReplayChannel.submit_eq rejecting]
      exact ⟨.enqueue client request, rfl, _, rfl⟩

private theorem moves_setRepeating (ends : hear.TellsEnds) (client : κ) (request : Request)
    (channel : ReplayChannel κ) :
    (ChannelAction.call (.setRepeating client request)).Moves hear channel := by
  cases rejecting : channel.rejecting with
  | true =>
      simp only [Moves, accepted, agenda, perform, ChannelCall.perform, Activity.bind_pure_apply,
        ReplayChannel.setRepeating_eq_of_rejecting rejecting, rejecting, if_true]
      exact ⟨.stay, rfl, _, rfl⟩
  | false =>
      simp only [Moves, accepted, agenda, perform, ChannelCall.perform, Activity.bind_pure_apply,
        ReplayChannel.setRepeating_eq ends rejecting, rejecting, Bool.false_eq_true, if_false]
      exact ⟨.renew client request, (ReplayChannel.tell_endReports channel).symm, _, rfl⟩

private theorem moves_replay (total : hear.IsTotal) (step : ChannelStep)
    (channel : ReplayChannel κ) :
    (ChannelAction.replay step).Moves hear channel := by
  have taken : (ChannelAction.replay step).accepted hear channel = [] := rfl
  simp only [Moves, taken, agenda, perform, Activity.bind_pure_apply]
  rcases step.cases_reports (κ := κ) with ⟨rejecting, rfl⟩ | ⟨reports, about⟩ | ⟨reports, about⟩
  · exact ⟨.switch rejecting, rfl, _, rfl⟩
  · rw [ChannelStep.agenda_of_repeatingReports about]
    cases running : channel.repeating with
    | none =>
        rw [ChannelStep.perform_eq_of_idle about running]
        exact ⟨.stay, rfl, _, rfl⟩
    | some flight =>
        rw [ChannelStep.perform_eq_of_running total about running, Option.toList_some,
          List.flatMap_singleton, ReplayChannel.tell_map_eq_toldFrame]
        exact ⟨.frame about running, rfl, _, rfl⟩
  · rw [ChannelStep.agenda_of_pendingReports about,
      ChannelStep.perform_eq_of_drain total about, ReplayChannel.tell_drainReports]
    exact ⟨.drain about, rfl, _, rfl⟩

theorem moves (total : hear.IsTotal) (action : ChannelAction κ) (channel : ReplayChannel κ) :
    action.Moves hear channel := by
  have ends := total.tellsEnds
  cases action with
  | replay step => exact moves_replay total step channel
  | call asked =>
      cases asked with
      | submit client request => exact moves_submit client request channel
      | setRepeating client request => exact moves_setRepeating ends client request channel
      | stopRepeating =>
          simp only [Moves, accepted, agenda, perform, ChannelCall.perform, Activity.bind_apply,
            Activity.pure_apply, List.append_nil, ReplayChannel.stopRepeating_eq ends]
          exact ⟨.stop, (ReplayChannel.tell_endReports channel).symm, _, rfl⟩
      | abortCaptures =>
          simp only [Moves, accepted, agenda, perform, ChannelCall.perform, Activity.bind_apply,
            Activity.pure_apply, List.append_nil, ReplayChannel.abortCaptures_eq ends]
          exact ⟨.abort, (ReplayChannel.tell_abortReports channel).symm, _, rfl⟩

end ChannelAction

/-! ## Frame numbers -/

def frameNumbers {κ : Type} (notices : List (Notice κ)) : List (Flight κ × Nat) :=
  notices.filterMap fun notice => notice.2.frame?.map (notice.1, ·)

/-- Frame numbers never go back. They are all those in a range, and each
belongs to one request. -/
structure CountsFrames {κ : Type} (first last : Nat) (numbers : List (Flight κ × Nat)) : Prop where
  forward : first ≤ last
  ordered : numbers.Pairwise fun earlier later =>
    earlier.2 ≤ later.2 ∧ (earlier.2 = later.2 → earlier.1 = later.1)
  covered : ∀ number, (∃ flight, (flight, number) ∈ numbers) ↔ first ≤ number ∧ number < last

namespace CountsFrames

variable {κ : Type} {first middle last : Nat} {earlier later : List (Flight κ × Nat)}

theorem nil (first : Nat) : CountsFrames (κ := κ) first first [] where
  forward := Nat.le_refl _
  ordered := .nil
  covered number := by simp

private theorem block (flight : Flight κ) (frame count : Nat) :
    CountsFrames frame (frame + 1) (List.replicate (count + 1) (flight, frame)) where
  forward := Nat.le_succ _
  ordered := List.pairwise_replicate.mpr (.inr ⟨Nat.le_refl _, fun _ => rfl⟩)
  covered number := by
    simp only [List.mem_replicate, Prod.mk.injEq]
    constructor
    · rintro ⟨_, _, _, rfl⟩
      exact ⟨Nat.le_refl _, Nat.lt_succ_self _⟩
    · rintro ⟨least, most⟩
      exact ⟨flight, Nat.succ_ne_zero _, rfl, Nat.le_antisymm (Nat.le_of_lt_succ most) least⟩

theorem append (before : CountsFrames first middle earlier)
    (after : CountsFrames middle last later) : CountsFrames first last (earlier ++ later) where
  forward := Nat.le_trans before.forward after.forward
  ordered := by
    refine List.pairwise_append.mpr ⟨before.ordered, after.ordered, ?_⟩
    rintro ⟨one, low⟩ member ⟨other, high⟩ following
    have below := ((before.covered low).mp ⟨one, member⟩).2
    have above := ((after.covered high).mp ⟨other, following⟩).1
    exact ⟨by omega, fun equal => by omega⟩
  covered number := by
    simp only [List.mem_append, exists_or, before.covered, after.covered]
    have forward := before.forward
    have onward := after.forward
    omega

end CountsFrames

section

variable {κ : Type}

@[simp] theorem frameNumbers_append (first second : List (Notice κ)) :
    frameNumbers (first ++ second) = frameNumbers first ++ frameNumbers second :=
  List.filterMap_append

private theorem frameNumbers_map (flight : Flight κ) (reports : List Report) :
    frameNumbers (reports.map (flight, ·)) =
      (reports.filterMap Report.frame?).map (flight, ·) := by
  rw [frameNumbers, List.filterMap_map, List.map_filterMap]
  rfl

private theorem countsFrames_drainReports {reports : Flight κ → Nat → List Report}
    (single : ∀ flight frame, (reports flight frame).filterMap Report.frame? = [frame])
    (flights : List (Flight κ)) (frame : Nat) :
    CountsFrames frame (frame + flights.length)
      (frameNumbers (ReplayChannel.drainReports reports frame flights)) := by
  induction flights generalizing frame with
  | nil => exact .nil frame
  | cons flight rest induction =>
      rw [ReplayChannel.drainReports_cons, frameNumbers_append, frameNumbers_map,
        List.filterMap_append, single, List.length_cons, Nat.add_comm rest.length, ← Nat.add_assoc]
      exact (CountsFrames.block flight frame 1).append (induction (frame + 1))

private theorem countsFrames_endReports (channel : ReplayChannel κ) :
    CountsFrames channel.nextFrame (channel.nextFrame + channel.repeating.toList.length)
      (frameNumbers channel.endReports) := by
  unfold ReplayChannel.endReports
  cases channel.repeating with
  | none => exact .nil _
  | some flight => exact CountsFrames.block flight channel.nextFrame 0

theorem frameNumbers_abortReports (channel : ReplayChannel κ) :
    frameNumbers channel.abortReports = [] := by
  simp [frameNumbers, ReplayChannel.abortReports, Report.frame?]

/-- The numbers that an action reports are the next ones. -/
theorem ChannelMove.countsFrames {channel after : ReplayChannel κ} {accepted : List (Flight κ)}
    {notices : List (Notice κ)} (move : ChannelMove channel accepted notices after) :
    CountsFrames channel.nextFrame after.nextFrame (frameNumbers notices) := by
  cases move with
  | stay => exact .nil _
  | switch rejecting => exact .nil _
  | enqueue client request => exact .nil _
  | renew client request => exact countsFrames_endReports channel
  | stop => exact countsFrames_endReports channel
  | abort =>
      rw [frameNumbers_abortReports]
      exact .nil _
  | frame about running =>
      rw [frameNumbers_map, (ChannelStep.repeatingReports_eq about _).1]
      exact CountsFrames.block _ channel.nextFrame 0
  | drain about =>
      exact countsFrames_drainReports
        (fun flight frame => (ChannelStep.pendingReports_eq about flight frame).1) _ _

end

/-! ## The reports on one request -/

namespace Flight

variable {κ : Type} {flight : Flight κ}

/-- The reports on a request, which its number in the channel tells from the others. -/
def reports (notices : List (Notice κ)) (flight : Flight κ) : List Report :=
  (notices.filter (·.1.channelSequence = flight.channelSequence)).map (·.2)

/-- The end of a request is the last report on it and has its number. There is none as long
as the request is in the channel. -/
structure Course (flight : Flight κ) (present : Prop) (reports : List Report) : Prop where
  going : present → ∀ report ∈ reports, report.ends? = none
  ended : ¬present → ∃ earlier last, reports = earlier ++ [last] ∧
    (∀ report ∈ earlier, report.ends? = none) ∧ last.ends? = some flight.channelSequence

theorem Course.of_going {present : Prop} {reports : List Report} (stays : present)
    (going : ∀ report ∈ reports, report.ends? = none) : flight.Course present reports :=
  ⟨fun _ => going, fun gone => absurd stays gone⟩

theorem Course.of_ended {present : Prop} {earlier : List Report} {last : Report}
    (gone : ¬present) (going : ∀ report ∈ earlier, report.ends? = none)
    (ends : last.ends? = some flight.channelSequence) :
    flight.Course present (earlier ++ [last]) :=
  ⟨fun stays => absurd stays gone, fun _ => ⟨earlier, last, rfl, going, ends⟩⟩

theorem Course.append {present : Prop} {earlier later : List Report}
    (going : ∀ report ∈ earlier, report.ends? = none) (course : flight.Course present later) :
    flight.Course present (earlier ++ later) where
  going stays report member :=
    (List.mem_append.mp member).elim (going report) (course.going stays report)
  ended gone := by
    obtain ⟨middle, last, rfl, between, ends⟩ := course.ended gone
    refine ⟨earlier ++ middle, last, (List.append_assoc ..).symm, ?_, ends⟩
    exact fun report member =>
      (List.mem_append.mp member).elim (going report) (between report)

@[simp] theorem reports_nil (flight : Flight κ) : flight.reports [] = [] := rfl

@[simp] theorem reports_append (first second : List (Notice κ)) (flight : Flight κ) :
    flight.reports (first ++ second) = flight.reports first ++ flight.reports second := by
  simp [reports]

theorem mem_reports {notices : List (Notice κ)} {report : Report} :
    report ∈ flight.reports notices ↔
      ∃ other, (other, report) ∈ notices ∧ other.channelSequence = flight.channelSequence := by
  simp [reports]

theorem reports_eq_nil {notices : List (Notice κ)} {others : List (Flight κ)}
    (unlike : ∀ other ∈ others, other.channelSequence ≠ flight.channelSequence)
    (elsewhere : ∀ notice ∈ notices, notice.1 ∈ others) : flight.reports notices = [] := by
  simpa [reports] using fun other report member => unlike other (elsewhere (other, report) member)

@[simp] theorem reports_map_self (flight : Flight κ) (about : List Report) :
    flight.reports (about.map (flight, ·)) = about := by
  simp [reports, List.filter_map, Function.comp_def]

private theorem reports_map_of_unlike {first : Flight κ}
    (unlike : first.channelSequence ≠ flight.channelSequence) (about : List Report) :
    flight.reports (about.map (first, ·)) = [] := by
  have only : ∀ other ∈ [first], other.channelSequence ≠ flight.channelSequence := by
    simpa using unlike
  exact reports_eq_nil only (by simp)

theorem unlike_of_nodup {first : Flight κ} {rest : List (Flight κ)}
    (apart : ((first :: rest).map (·.channelSequence)).Nodup) :
    (∀ other ∈ rest, other.channelSequence ≠ first.channelSequence) ∧
      (rest.map (·.channelSequence)).Nodup := by
  obtain ⟨unlike, apart⟩ := List.nodup_cons.mp apart
  exact ⟨fun other member same => unlike (List.mem_map.mpr ⟨other, member, same⟩), apart⟩

theorem reports_map_of_mem {flights : List (Flight κ)}
    (apart : (flights.map (·.channelSequence)).Nodup) (member : flight ∈ flights)
    (about : Flight κ → Report) :
    flight.reports (flights.map fun flight => (flight, about flight)) = [about flight] := by
  induction flights with
  | nil => cases member
  | cons first rest induction =>
      obtain ⟨unlike, apart⟩ := unlike_of_nodup apart
      have split : (first :: rest).map (fun flight => (flight, about flight)) =
          [about first].map (first, ·) ++ rest.map fun flight => (flight, about flight) := rfl
      rw [split, reports_append]
      rcases List.mem_cons.mp member with rfl | later
      · rw [reports_map_self, reports_eq_nil unlike (by simp), List.append_nil]
      · rw [reports_map_of_unlike (unlike flight later).symm, induction apart later,
          List.nil_append]

theorem reports_drainReports {flights : List (Flight κ)}
    (apart : (flights.map (·.channelSequence)).Nodup) (member : flight ∈ flights)
    (about : Flight κ → Nat → List Report) (frame : Nat) :
    ∃ number, flight.reports (ReplayChannel.drainReports about frame flights) =
      about flight number ++ [.sequenceCompleted flight.channelSequence number] := by
  induction flights generalizing frame with
  | nil => cases member
  | cons first rest induction =>
      obtain ⟨unlike, apart⟩ := unlike_of_nodup apart
      rw [ReplayChannel.drainReports_cons, reports_append]
      rcases List.mem_cons.mp member with rfl | later
      · refine ⟨frame, ?_⟩
        rw [reports_map_self, reports_eq_nil unlike, List.append_nil]
        exact fun notice reported => ReplayChannel.mem_of_mem_drainReports reported
      · obtain ⟨number, told⟩ := induction apart later (frame + 1)
        refine ⟨number, ?_⟩
        rw [reports_map_of_unlike (unlike flight later).symm, told, List.nil_append]

end Flight

end EyesFree
