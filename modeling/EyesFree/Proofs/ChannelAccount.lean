import EyesFree.Proofs.ChannelMoves
import EyesFree.Proofs.Run
import Mathlib.Algebra.Group.Nat.Defs
import Mathlib.Data.List.Nodup

namespace EyesFree

/-! What becomes of the requests that the replaying channel takes, over any run of calls and
reports. They are numbered as they are taken, each of them ends once, when it leaves the
channel, and the frame numbers that are reported follow on each other. -/

/-! ## The requests in the channel -/

namespace ChannelMove

variable {κ : Type} {channel after : ReplayChannel κ} {accepted : List (Flight κ)}
  {notices : List (Notice κ)} {flight : Flight κ}

private theorem mem_flights (move : ChannelMove channel accepted notices after) :
    ∀ notice ∈ notices, notice.1 ∈ channel.flights := by
  rintro ⟨flight, report⟩ member
  cases move with
  | stay => cases member
  | switch rejecting => cases member
  | enqueue client request => cases member
  | renew client request =>
      exact List.mem_append_left _
        (Option.mem_toList.mpr (ReplayChannel.mem_of_mem_endReports member))
  | stop =>
      exact List.mem_append_left _
        (Option.mem_toList.mpr (ReplayChannel.mem_of_mem_endReports member))
  | abort =>
      exact List.mem_append.mpr
        ((ReplayChannel.mem_of_mem_abortReports member).imp_left Option.mem_toList.mpr)
  | frame about running =>
      obtain ⟨_, _, same⟩ := List.mem_map.mp member
      cases same
      exact List.mem_append_left _ (Option.mem_toList.mpr running)
  | drain about =>
      exact List.mem_append_right _ (ReplayChannel.mem_of_mem_drainReports member)

private theorem accepted_cases (move : ChannelMove channel accepted notices after) :
    (accepted = [] ∧ after.nextSequence = channel.nextSequence ∧
        after.submitted = channel.submitted) ∨
      ∃ flight, accepted = [flight] ∧ flight.channelSequence = channel.nextSequence ∧
        after.nextSequence = channel.nextSequence + 1 ∧
        after.submitted = channel.submitted ++ [flight.request] ∧ flight ∈ after.flights := by
  cases move with
  | enqueue client request =>
      exact .inr ⟨_, rfl, rfl, rfl, rfl, by simp [ReplayChannel.flights]⟩
  | renew client request =>
      exact .inr ⟨_, rfl, rfl, rfl, rfl, by simp [ReplayChannel.flights]⟩
  | _ => exact .inl ⟨rfl, rfl, rfl⟩

private theorem exists_perm (move : ChannelMove channel accepted notices after) :
    ∃ gone, (channel.flights ++ accepted).Perm (gone ++ after.flights) := by
  cases move with
  | stay => exact ⟨[], by simp⟩
  | switch rejecting => exact ⟨[], by simp [ReplayChannel.flights]⟩
  | enqueue client request => exact ⟨[], by simp [ReplayChannel.flights]⟩
  | renew client request =>
      refine ⟨channel.repeating.toList, ?_⟩
      simp only [ReplayChannel.flights, List.append_assoc]
      exact List.perm_append_comm.append_left _
  | stop => exact ⟨channel.repeating.toList, by simp [ReplayChannel.flights]⟩
  | abort => exact ⟨channel.flights, by simp [ReplayChannel.flights]⟩
  | frame about running => exact ⟨[], by simp [ReplayChannel.flights]⟩
  | drain about =>
      refine ⟨channel.pending, ?_⟩
      simpa [ReplayChannel.flights] using List.perm_append_comm

private theorem mem_of_mem_after (move : ChannelMove channel accepted notices after)
    (inside : flight ∈ after.flights) : flight ∈ channel.flights ∨ flight ∈ accepted := by
  obtain ⟨gone, permuted⟩ := move.exists_perm
  exact List.mem_append.mp (permuted.mem_iff.mpr (List.mem_append_right _ inside))

end ChannelMove

/-- The requests in the channel have numbers of their own, also with those
that an action takes. -/
def ReplayChannel.Apart {κ : Type} (channel : ReplayChannel κ) (accepted : List (Flight κ)) :
    Prop :=
  ((channel.flights ++ accepted).map (·.channelSequence)).Nodup

namespace ReplayChannel.Apart

variable {κ : Type} {channel : ReplayChannel κ} {accepted : List (Flight κ)} {flight : Flight κ}

private theorem eq_of_mem {other : Flight κ} (apart : channel.Apart accepted)
    (member : flight ∈ channel.flights) (another : other ∈ channel.flights)
    (same : other.channelSequence = flight.channelSequence) : other = flight :=
  List.inj_on_of_nodup_map apart (List.mem_append_left _ another) (List.mem_append_left _ member)
    same

private theorem flights (apart : channel.Apart accepted) :
    (channel.flights.map (·.channelSequence)).Nodup := by
  rw [Apart, List.map_append] at apart
  exact (List.nodup_append.mp apart).1

private theorem pending (apart : channel.Apart accepted) :
    (channel.pending.map (·.channelSequence)).Nodup := by
  have flights := apart.flights
  rw [ReplayChannel.flights, List.map_append] at flights
  exact (List.nodup_append.mp flights).2.1

private theorem slot_unlike (apart : channel.Apart accepted) {other : Flight κ}
    (running : channel.repeating = some flight) (member : other ∈ channel.pending) :
    other.channelSequence ≠ flight.channelSequence := by
  have flights := apart.flights
  rw [ReplayChannel.flights, running] at flights
  exact (Flight.unlike_of_nodup flights).1 other member

private theorem taken_unlike (apart : channel.Apart accepted) {other : Flight κ}
    (member : flight ∈ channel.flights) (taken : other ∈ accepted) :
    other.channelSequence ≠ flight.channelSequence := by
  rw [Apart, List.map_append] at apart
  exact fun same => (List.nodup_append.mp apart).2.2 _ (List.mem_map_of_mem member) _
    (List.mem_map_of_mem taken) same.symm

end ReplayChannel.Apart

namespace ChannelMove

variable {κ : Type} {channel after : ReplayChannel κ} {accepted : List (Flight κ)}
  {notices : List (Notice κ)} {flight : Flight κ}

private theorem apart_after (move : ChannelMove channel accepted notices after)
    (apart : channel.Apart accepted) : (after.flights.map (·.channelSequence)).Nodup := by
  obtain ⟨gone, permuted⟩ := move.exists_perm
  have parted : ((gone ++ after.flights).map (·.channelSequence)).Nodup :=
    (permuted.map _).nodup_iff.mp apart
  rw [List.map_append] at parted
  exact (List.nodup_append.mp parted).2.1

private theorem reports_endReports (apart : channel.Apart accepted) :
    (channel.repeating = some flight → flight.reports channel.endReports =
        [] ++ [.sequenceCompleted flight.channelSequence channel.nextFrame]) ∧
      (flight ∈ channel.pending → flight.reports channel.endReports = []) := by
  constructor
  · intro running
    rw [ReplayChannel.endReports, running]
    exact Flight.reports_map_self flight [.sequenceCompleted flight.channelSequence _]
  · intro queued
    have unlike : ∀ other ∈ channel.repeating.toList,
        other.channelSequence ≠ flight.channelSequence := fun other running =>
      (apart.slot_unlike (Option.mem_toList.mp running) queued).symm
    exact Flight.reports_eq_nil unlike fun notice member =>
      Option.mem_toList.mpr (ReplayChannel.mem_of_mem_endReports member)

private theorem course_endReports (apart : channel.Apart accepted)
    (member : flight ∈ channel.flights)
    (gone : channel.repeating = some flight → flight ∉ after.flights)
    (stays : channel.pending ⊆ after.flights) :
    flight.Course (flight ∈ after.flights) (flight.reports channel.endReports) := by
  rcases List.mem_append.mp member with slot | queued
  · have running := Option.mem_toList.mp slot
    rw [(reports_endReports apart).1 running]
    exact .of_ended (gone running) (by simp) rfl
  · rw [(reports_endReports apart).2 queued]
    exact .of_going (stays queued) (by simp)

private theorem course (move : ChannelMove channel accepted notices after)
    (apart : channel.Apart accepted) (member : flight ∈ channel.flights) :
    flight.Course (flight ∈ after.flights) (flight.reports notices) := by
  have unqueued (running : channel.repeating = some flight) : flight ∉ channel.pending :=
    fun queued => apart.slot_unlike running queued rfl
  cases move with
  | stay => exact .of_going member (by simp)
  | switch rejecting => exact .of_going member (by simp)
  | enqueue client request =>
      refine .of_going ?_ (by simp)
      simpa [ReplayChannel.flights, or_assoc] using Or.inl (List.mem_append.mp member)
  | renew client request =>
      refine course_endReports apart member (fun running => ?_) (by simp [ReplayChannel.flights])
      have another := apart.taken_unlike member (List.mem_singleton_self _)
      simp only [ReplayChannel.flights, ReplayChannel.renewed_repeating, Option.toList_some,
        List.singleton_append, ReplayChannel.renewed_pending, List.mem_cons, not_or]
      exact ⟨fun same => another (same ▸ rfl), unqueued running⟩
  | stop =>
      exact course_endReports apart member (by simpa [ReplayChannel.flights] using unqueued)
        (by simp [ReplayChannel.flights])
  | abort =>
      have told : flight.reports channel.abortReports =
          [] ++ [.sequenceAborted flight.channelSequence] :=
        Flight.reports_map_of_mem apart.flights member _
      rw [told]
      exact .of_ended (by simp [ReplayChannel.flights]) (by simp) rfl
  | frame about running =>
      refine .of_going member fun report told => ?_
      obtain ⟨_, made, _⟩ := Flight.mem_reports.mp told
      obtain ⟨_, reported, same⟩ := List.mem_map.mp made
      cases same
      exact (ChannelStep.repeatingReports_eq about channel.nextFrame).2 report reported
  | drain about =>
      rcases List.mem_append.mp member with slot | queued
      · have running := Option.mem_toList.mp slot
        rw [Flight.reports_eq_nil (fun other => apart.slot_unlike running)
          fun notice made => ReplayChannel.mem_of_mem_drainReports made]
        exact .of_going (by simpa [ReplayChannel.flights] using running) (by simp)
      · obtain ⟨number, told⟩ := Flight.reports_drainReports apart.pending queued _
          channel.nextFrame
        rw [told]
        refine .of_ended ?_ (ChannelStep.pendingReports_eq about flight number).2 rfl
        simpa [ReplayChannel.flights] using fun running => unqueued running queued

/-- A request leaves the channel in the very action that reports its end. -/
theorem leaves_iff (move : ChannelMove channel accepted notices after)
    (apart : channel.Apart accepted) :
    (flight ∈ channel.flights ∧ flight ∉ after.flights) ↔
      ∃ report, (flight, report) ∈ notices ∧ report.ends?.isSome := by
  constructor
  · rintro ⟨member, gone⟩
    obtain ⟨earlier, last, told, -, ends⟩ := (move.course apart member).ended gone
    have reported : last ∈ flight.reports notices := by simp [told]
    obtain ⟨other, made, same⟩ := Flight.mem_reports.mp reported
    cases apart.eq_of_mem member (move.mem_flights _ made) same
    exact ⟨last, made, by simp [ends]⟩
  · rintro ⟨report, made, ends⟩
    have member := move.mem_flights _ made
    refine ⟨member, fun stays => ?_⟩
    have going := (move.course apart member).going stays report
      (Flight.mem_reports.mpr ⟨flight, made, rfl⟩)
    simp [going] at ends

private theorem reports_pending (move : ChannelMove channel accepted notices after)
    (apart : channel.Apart accepted) (queued : flight ∈ channel.pending)
    (gone : flight ∉ after.flights) :
    flight.reports notices = [.sequenceAborted flight.channelSequence] ∨
      ∃ event number,
        flight.reports notices = event ++ [.sequenceCompleted flight.channelSequence number] ∧
          event.filterMap Report.frame? = [number] := by
  cases move with
  | abort =>
      exact .inl (Flight.reports_map_of_mem apart.flights (List.mem_append_right _ queued) _)
  | drain about =>
      obtain ⟨number, told⟩ := Flight.reports_drainReports apart.pending queued _
        channel.nextFrame
      exact .inr ⟨_, number, told, (ChannelStep.pendingReports_eq about flight number).1⟩
  | _ => exact absurd (by simp [ReplayChannel.flights, queued]) gone

end ChannelMove

/-! ## The account -/

/-- What the requests that were taken, the reports on them and the channel have
to do with each other. -/
structure ChannelAccount {κ : Type} (accepted : List (Flight κ)) (notices : List (Notice κ))
    (channel : ReplayChannel κ) : Prop where
  next : channel.nextSequence = Int32.ofNat accepted.length
  numbered : accepted.map (·.channelSequence) = (List.range accepted.length).map Int32.ofNat
  submitted : channel.submitted = accepted.map (·.request)
  present : ∀ flight ∈ channel.flights, flight ∈ accepted
  apart : (channel.flights.map (·.channelSequence)).Nodup
  known : ∀ notice ∈ notices, notice.1 ∈ accepted
  courses : ∀ flight ∈ accepted,
    flight.Course (flight ∈ channel.flights) (flight.reports notices)
  frames : CountsFrames 0 channel.nextFrame (frameNumbers notices)

namespace ChannelAccount

variable {κ : Type} {channel after : ReplayChannel κ} {accepted taken : List (Flight κ)}
  {notices made : List (Notice κ)}

private theorem initial : ChannelAccount ([] : List (Flight κ)) [] {} where
  next := rfl
  numbered := rfl
  submitted := rfl
  present := by simp [ReplayChannel.flights]
  apart := by simp [ReplayChannel.flights]
  known := by simp
  courses := by simp
  frames := .nil 0

private theorem nodup_numbers {count : Nat} (few : count < 2 ^ 31) :
    ((List.range count).map Int32.ofNat).Nodup := by
  refine List.nodup_range.map_on fun first below second under same => ?_
  rw [List.mem_range] at below under
  have equal := congrArg Int32.toInt same
  rw [Int32.toInt_ofNat_of_lt (by omega), Int32.toInt_ofNat_of_lt (by omega)] at equal
  exact_mod_cast equal

private theorem numbered_after (account : ChannelAccount accepted notices channel)
    (move : ChannelMove channel taken made after) :
    after.nextSequence = Int32.ofNat (accepted ++ taken).length ∧
      (accepted ++ taken).map (·.channelSequence) =
        (List.range (accepted ++ taken).length).map Int32.ofNat ∧
      after.submitted = (accepted ++ taken).map (·.request) := by
  rcases move.accepted_cases with ⟨rfl, next, submitted⟩ | ⟨flight, rfl, number, next, submitted, _⟩
  · rw [List.append_nil, next, submitted]
    exact ⟨account.next, account.numbered, account.submitted⟩
  · rw [next, submitted, List.map_append, List.map_append, account.numbered, account.submitted,
      List.length_append, List.length_singleton, List.range_succ, List.map_append,
      List.map_singleton, List.map_singleton, List.map_singleton, number, account.next]
    exact ⟨(Int32.ofNat_add ..).symm, rfl, rfl⟩

private theorem apart_of_few (account : ChannelAccount accepted notices channel)
    (move : ChannelMove channel taken made after) (few : (accepted ++ taken).length < 2 ^ 31) :
    ((accepted ++ taken).map (·.channelSequence)).Nodup ∧ channel.Apart taken := by
  have unique : ((accepted ++ taken).map (·.channelSequence)).Nodup := by
    rw [(account.numbered_after move).2.1]
    exact nodup_numbers few
  refine ⟨unique, ?_⟩
  rw [List.map_append] at unique
  obtain ⟨_, fresh, unlike⟩ := List.nodup_append.mp unique
  rw [ReplayChannel.Apart, List.map_append]
  refine List.nodup_append.mpr ⟨account.apart, fresh, fun number inside other new => ?_⟩
  obtain ⟨flight, member, rfl⟩ := List.mem_map.mp inside
  exact unlike _ (List.mem_map_of_mem (account.present flight member)) other new

/-- What is reported on each request after an action. A request that left the channel before
is not reported on any more, as no other one has its number. -/
theorem courses_after (account : ChannelAccount accepted notices channel)
    (move : ChannelMove channel taken made after) (few : (accepted ++ taken).length < 2 ^ 31)
    {flight : Flight κ} (member : flight ∈ accepted ++ taken) :
    flight.Course (flight ∈ after.flights) (flight.reports (notices ++ made)) := by
  obtain ⟨unique, apart⟩ := account.apart_of_few move few
  rw [List.map_append] at unique
  obtain ⟨before, _, unlike⟩ := List.nodup_append.mp unique
  have fresh {old new : Flight κ} (earlier : old ∈ accepted) (later : new ∈ taken) :
      old.channelSequence ≠ new.channelSequence :=
    unlike _ (List.mem_map_of_mem earlier) _ (List.mem_map_of_mem later)
  rw [Flight.reports_append]
  rcases List.mem_append.mp member with old | new
  · by_cases inside : flight ∈ channel.flights
    · exact .append ((account.courses flight old).going inside) (move.course apart inside)
    · have silent : flight.reports made = [] := by
        refine Flight.reports_eq_nil (fun other another same => inside ?_) move.mem_flights
        exact List.inj_on_of_nodup_map before (account.present other another) old same ▸ another
      have gone : flight ∉ after.flights := fun stays =>
        (move.mem_of_mem_after stays).elim inside fun new => fresh old new rfl
      rw [silent, List.append_nil]
      exact ⟨fun stays => absurd stays gone, fun _ => (account.courses flight old).ended inside⟩
  · have stays : flight ∈ after.flights := by
      rcases move.accepted_cases with ⟨rfl, _⟩ | ⟨first, rfl, _, _, _, stays⟩
      · cases new
      · exact List.mem_singleton.mp new ▸ stays
    rw [Flight.reports_eq_nil (fun other earlier => fresh earlier new) account.known,
      Flight.reports_eq_nil (fun other inside => fresh (account.present other inside) new)
        move.mem_flights]
    exact .of_going stays (by simp)

private theorem move (account : ChannelAccount accepted notices channel)
    (move : ChannelMove channel taken made after) (few : (accepted ++ taken).length < 2 ^ 31) :
    ChannelAccount (accepted ++ taken) (notices ++ made) after := by
  obtain ⟨next, numbered, submitted⟩ := account.numbered_after move
  obtain ⟨_, apart⟩ := account.apart_of_few move few
  have known : ∀ notice ∈ made, notice.1 ∈ accepted := fun notice member =>
    account.present _ (move.mem_flights notice member)
  exact {
    next, numbered, submitted
    present := fun flight inside =>
      List.mem_append.mpr ((move.mem_of_mem_after inside).imp_left (account.present flight))
    apart := move.apart_after apart
    known := fun notice member => List.mem_append_left _
      ((List.mem_append.mp member).elim (account.known notice) (known notice))
    courses := fun _ member => account.courses_after move few member
    frames := by
      rw [frameNumbers_append]
      exact account.frames.append move.countsFrames }

end ChannelAccount

/-! ## Every run of the channel -/

section

variable {κ ε : Type} {hear : Hearing κ ε}

def acceptedBy (hear : Hearing κ ε) (actions : List (ChannelAction κ)) : List (Flight κ) :=
  notedBy (ChannelAction.perform hear) (ChannelAction.accepted hear) {} actions

def noticesOf (hear : Hearing κ ε) (actions : List (ChannelAction κ)) : List (Notice κ) :=
  notedBy (ChannelAction.perform hear) ChannelAction.agenda {} actions

def channelAfter (hear : Hearing κ ε) (actions : List (ChannelAction κ)) : ReplayChannel κ :=
  stateAfter (ChannelAction.perform hear) {} actions

private theorem account_after (total : hear.IsTotal) (actions : List (ChannelAction κ))
    (few : (acceptedBy hear actions).length < 2 ^ 31) :
    ChannelAccount (acceptedBy hear actions) (noticesOf hear actions)
      (channelAfter hear actions) := by
  induction actions using List.reverseRecOn with
  | nil => exact .initial
  | append_singleton actions action induction =>
      obtain ⟨move, -⟩ := action.moves total (channelAfter hear actions)
      rw [acceptedBy, notedBy_concat] at few ⊢
      rw [noticesOf, channelAfter, notedBy_concat, stateAfter_concat]
      refine (induction ?_).move move few
      exact Nat.lt_of_le_of_lt (by simp [acceptedBy]) few

private theorem emittedBy_eq_tell (total : hear.IsTotal) (actions : List (ChannelAction κ)) :
    emittedBy (ChannelAction.perform hear) {} actions =
      ReplayChannel.tell hear (noticesOf hear actions) := by
  induction actions using List.reverseRecOn with
  | nil => rfl
  | append_singleton actions action induction =>
      obtain ⟨-, emitted, -⟩ := action.moves total (channelAfter hear actions)
      rw [emittedBy_concat, induction, noticesOf, noticesOf, notedBy_concat, ReplayChannel.tell,
        ReplayChannel.tell, List.flatMap_append]
      exact congrArg _ emitted

private theorem perform_request (total : hear.IsTotal) {action : ChannelAction κ} {client : κ}
    {request : Request}
    (asks : action = .call (.submit client request) ∨ action = .call (.setRepeating client request))
    (channel : ReplayChannel κ) :
    if channel.rejecting then action.perform hear channel = ⟨channel, [], .ok (.call none)⟩
    else action.accepted hear channel = [⟨channel.nextSequence, request, client⟩] := by
  cases rejecting : channel.rejecting with
  | true =>
      rcases asks with rfl | rfl
      · simp only [ChannelAction.perform, ChannelCall.perform, Activity.bind_pure_apply,
          ReplayChannel.submit_eq_of_rejecting rejecting]
        rfl
      · simp only [ChannelAction.perform, ChannelCall.perform, Activity.bind_pure_apply,
          ReplayChannel.setRepeating_eq_of_rejecting rejecting]
        rfl
  | false =>
      rcases asks with rfl | rfl
      · simp only [ChannelAction.accepted, ChannelAction.perform, ChannelCall.perform,
          Activity.bind_pure_apply, ReplayChannel.submit_eq rejecting]
        rfl
      · simp only [ChannelAction.accepted, ChannelAction.perform, ChannelCall.perform,
          Activity.bind_pure_apply, ReplayChannel.setRepeating_eq total.tellsEnds rejecting]
        rfl

private theorem nextFrame_abort (total : hear.IsTotal) (channel : ReplayChannel κ) :
    ((ChannelAction.call .abortCaptures).perform hear channel).state.nextFrame =
      channel.nextFrame := by
  simp only [ChannelAction.perform, ChannelCall.perform, Activity.bind_apply, Activity.pure_apply,
    ReplayChannel.abortCaptures_eq total.tellsEnds]
  rfl

/-- Requests are numbered as they are taken. Each of them ends once, under its own number
and when it leaves the channel. The frame numbers that are reported follow on each other. -/
theorem channel_accounted (total : hear.IsTotal) (actions : List (ChannelAction κ))
    (few : (acceptedBy hear actions).length < 2 ^ 31) :
    let accepted := acceptedBy hear actions
    let notices := noticesOf hear actions
    let final := channelAfter hear actions
    emittedBy (ChannelAction.perform hear) {} actions = ReplayChannel.tell hear notices ∧
      accepted.map (·.channelSequence.toInt) = (List.range accepted.length).map Int.ofNat ∧
      final.submitted = accepted.map (·.request) ∧
      (∀ notice ∈ notices, notice.1 ∈ accepted) ∧
      (∀ flight ∈ accepted, flight.Course (flight ∈ final.flights) (flight.reports notices)) ∧
      CountsFrames 0 final.nextFrame (frameNumbers notices) ∧
      ∀ place action, actions[place]? = some action →
        let before := channelAfter hear (actions.take place)
        let after := (action.perform hear before).state
        let made := action.agenda before
        (∀ client request,
          (action = .call (.submit client request) ∨
              action = .call (.setRepeating client request)) →
            if before.rejecting then action.perform hear before = ⟨before, [], .ok (.call none)⟩
            else action.accepted hear before = [⟨before.nextSequence, request, client⟩]) ∧
        (∀ flight, (flight ∈ before.flights ∧ flight ∉ after.flights) ↔
          ∃ report, (flight, report) ∈ made ∧ report.ends?.isSome) ∧
        (∀ flight ∈ before.pending, flight ∉ after.flights →
          flight.reports made = [.sequenceAborted flight.channelSequence] ∨
            ∃ event number,
              flight.reports made = event ++ [.sequenceCompleted flight.channelSequence number] ∧
                event.filterMap Report.frame? = [number]) ∧
        (action = .call .abortCaptures →
          frameNumbers made = [] ∧ after.nextFrame = before.nextFrame) := by
  intro accepted notices final
  have account := account_after total actions few
  refine ⟨emittedBy_eq_tell total actions, ?_, account.submitted, account.known, account.courses,
    account.frames, ?_⟩
  · have numbers := congrArg (List.map Int32.toInt) account.numbered
    rw [List.map_map, List.map_map] at numbers
    refine numbers.trans (List.map_congr_left fun number below => ?_)
    exact Int32.toInt_ofNat_of_lt (Nat.lt_trans (List.mem_range.mp below) few)
  · intro place action found before after made
    obtain ⟨later, whole⟩ := notedBy_eq_of_getElem? (ChannelAction.perform hear)
      (ChannelAction.accepted hear) found {}
    have fewer : (acceptedBy hear (actions.take place) ++
        action.accepted hear before).length < 2 ^ 31 := by
      refine Nat.lt_of_le_of_lt ?_ few
      rw [acceptedBy, acceptedBy, whole]
      exact (List.prefix_append ..).length_le
    have earlier := account_after total (actions.take place)
      (Nat.lt_of_le_of_lt (List.prefix_append ..).length_le fewer)
    obtain ⟨move, -⟩ := action.moves total before
    obtain ⟨-, apart⟩ := earlier.apart_of_few move fewer
    refine ⟨fun client request asks => perform_request total asks before,
      fun flight => move.leaves_iff apart,
      fun flight queued gone => move.reports_pending apart queued gone, ?_⟩
    rintro rfl
    exact ⟨frameNumbers_abortReports before, nextFrame_abort total before⟩

/-- A repeating request of which one frame fails and which another one replaces, a
rejected request, one that is drained and one that is aborted together with the
second repeating request. -/
theorem channel_accounted_replaced :
    let hear : Hearing String (String × Report) := fun client _ report => .ok [(client, report)]
    let request : Request := .of .repeating ⟨[]⟩
    let actions : List (ChannelAction String) :=
      [.call (.setRepeating "first" request), .replay (.failRepeating .error),
        .call (.submit "still" request), .replay (.reject true), .call (.submit "late" request),
        .replay (.reject false), .call (.setRepeating "second" request), .replay .losePending,
        .call (.submit "focus" request), .call .abortCaptures]
    (acceptedBy hear actions).map (·.client) = ["first", "still", "second", "focus"] ∧
      (acceptedBy hear actions).map (·.channelSequence.toInt) = [0, 1, 2, 3] ∧
      emittedBy (ChannelAction.perform hear) {} actions =
        [("first", .failed 0 .error), ("first", .sequenceCompleted 0 1),
          ("still", .bufferLost 2 .preview), ("still", .sequenceCompleted 1 2),
          ("second", .sequenceAborted 2), ("focus", .sequenceAborted 3)] ∧
      CountsFrames 0 3 (frameNumbers (noticesOf hear actions)) := by
  intro hear request actions
  have total : hear.IsTotal := fun _ _ _ => ⟨_, rfl⟩
  have four : (acceptedBy hear actions).length = 4 := by decide
  have three : (channelAfter hear actions).nextFrame = 3 := by decide
  obtain ⟨-, numbered, -, -, -, frames, -⟩ := channel_accounted total actions (by rw [four]; decide)
  rw [four] at numbered
  rw [three] at frames
  exact ⟨by decide, numbered, by decide, frames⟩

end

end EyesFree
