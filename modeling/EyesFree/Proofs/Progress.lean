import EyesFree.Proofs.Deliveries

namespace EyesFree

/-! What a step tells about a capture that was started before. Each step advances a capture
by at most one frame or its end, whatever it tells about other captures. -/

/-! ## Events of a frame and of an end -/

/-- The events of one frame of a repeating request. -/
inductive FrameEvents (sequence : SequenceId) : List CaptureEvent → Prop
  | completed (timestamp : Timestamp) (bundle : CaptureResult) :
      FrameEvents sequence [.started sequence timestamp, .completed sequence timestamp bundle,
        .processStarted sequence]
  | failed (reason : FailureReason) : FrameEvents sequence [.failed sequence reason]

/-- The events that end a request for one capture. -/
inductive FinalEvents (sequence : SequenceId) : List CaptureEvent → Prop
  | completed (timestamp : Timestamp) (bundle : CaptureResult) :
      FinalEvents sequence [.started sequence timestamp, .completed sequence timestamp bundle,
        .sequenceCompleted sequence]
  /-- The result had no timestamp. -/
  | untimed : FinalEvents sequence [.started sequence 0, .sequenceCompleted sequence]
  | failed (reason : FailureReason) :
      FinalEvents sequence [.failed sequence reason, .sequenceCompleted sequence]
  | aborted : FinalEvents sequence [.sequenceAborted sequence]

private theorem sensorTimestamp_sampleResult (timestamp : Timestamp) :
    (sampleResult timestamp).sensorTimestamp = some timestamp := rfl

namespace Flight

variable {context : CaptureContext} {flight : Flight Subscription}

theorem map_toldEnd (heard : flight.client.kind = .repeating → context.ended = false)
    (frame : Nat) :
    (ReplayChannel.toldEnd context.hear frame flight).map (·.event) =
      [.sequenceCompleted flight.client.sequence] :=
  map_told_hear heard rfl

theorem map_toldAbort (heard : flight.client.kind = .repeating → context.ended = false) :
    (ReplayChannel.toldAbort context.hear flight).map (·.event) =
      [.sequenceAborted flight.client.sequence] :=
  map_told_hear heard rfl

private theorem map_toldFrame_cons (report : Report) (rest : List Report) :
    (ReplayChannel.toldFrame context.hear flight (report :: rest)).map (·.event) =
      (flight.told context.hear report).map (·.event) ++
        (ReplayChannel.toldFrame context.hear flight rest).map (·.event) := by
  simp [ReplayChannel.toldFrame]

variable (extent : context.capabilities.activeArray.HasExtent)

include extent in
theorem exists_map_toldFrame_sample
    (heard : flight.client.kind = .repeating → context.ended = false) (timestamp : Timestamp)
    (frame : Nat) :
    ∃ bundle, (ReplayChannel.toldFrame context.hear flight
        [.started frame timestamp, .completed (sampleResult timestamp)]).map (·.event) =
      .started flight.client.sequence timestamp ::
        .completed flight.client.sequence timestamp bundle :: flight.client.next := by
  obtain ⟨bundle, synthesized⟩ := context.capabilities.synthesize_eq_ok extent
    flight.request.parameters (sampleResult timestamp)
  have completed := flight.client.events_eq_of_timed
    (sensorTimestamp_sampleResult timestamp) synthesized
  refine ⟨bundle, ?_⟩
  rw [map_toldFrame_cons, map_toldFrame_cons, map_told_hear heard rfl,
    map_told_hear heard completed]
  simp [ReplayChannel.toldFrame]

include extent in
private theorem frameEvents (repeating : flight.client.kind = .repeating)
    (opened : context.ended = false) {step : ChannelStep} {reports : Nat → List Report}
    (about : step.repeatingReports? = some reports) (frame : Nat) :
    FrameEvents flight.client.sequence
      ((ReplayChannel.toldFrame context.hear flight (reports frame)).map (·.event)) := by
  have heard : flight.client.kind = .repeating → context.ended = false := fun _ => opened
  have next : flight.client.next = [.processStarted flight.client.sequence] := if_pos repeating
  cases step with
  | fireRepeating timestamp =>
      cases about
      obtain ⟨bundle, told⟩ := exists_map_toldFrame_sample extent heard timestamp frame
      rw [told, next]
      exact .completed timestamp bundle
  | failRepeating reason =>
      cases about
      rw [map_toldFrame_cons, map_told_hear heard rfl]
      exact .failed reason
  | _ => cases about

include extent in
private theorem finalEvents_result (once : flight.client.kind ≠ .repeating) (frame : Nat)
    (result : CaptureResult) :
    FinalEvents flight.client.sequence
      ((ReplayChannel.toldFrame context.hear flight
        [.started frame (result.sensorTimestamp.getD 0), .completed result,
          .sequenceCompleted flight.channelSequence frame]).map (·.event)) := by
  have heard : flight.client.kind = .repeating → context.ended = false := fun repeating =>
    absurd repeating once
  have next : flight.client.next = [] := if_neg once
  rw [map_toldFrame_cons, map_toldFrame_cons, map_toldFrame_cons, map_told_hear heard rfl]
  cases timed : result.sensorTimestamp with
  | none =>
      have completed : flight.client.events context.capabilities flight.request
          (.completed result) = .ok [] := by
        rw [Subscription.events_eq_of_untimed timed, next]
      rw [map_told_hear heard completed, map_told_hear heard rfl]
      exact .untimed
  | some timestamp =>
      obtain ⟨bundle, synthesized⟩ :=
        context.capabilities.synthesize_eq_ok extent flight.request.parameters result
      have completed := flight.client.events_eq_of_timed timed synthesized
      rw [next] at completed
      rw [map_told_hear heard completed, map_told_hear heard rfl]
      exact .completed timestamp bundle

include extent in
theorem finalEvents (once : flight.client.kind ≠ .repeating) {step : ChannelStep}
    {reports : Flight Subscription → Nat → List Report}
    (about : step.pendingReports? = some reports) (frame : Nat) :
    FinalEvents flight.client.sequence
      ((ReplayChannel.toldFrame context.hear flight (reports flight frame ++
        [.sequenceCompleted flight.channelSequence frame])).map (·.event)) := by
  have heard : flight.client.kind = .repeating → context.ended = false := fun repeating =>
    absurd repeating once
  cases step with
  | completePending timestamp =>
      cases about
      exact finalEvents_result extent once frame (sampleResult timestamp)
  | completePendingWith result =>
      cases about
      exact finalEvents_result extent once frame result
  | failPending reason =>
      cases about
      simp only [List.singleton_append]
      rw [map_toldFrame_cons, map_toldFrame_cons, map_told_hear heard rfl,
        map_told_hear heard rfl]
      exact .failed reason
  | losePending =>
      cases about
      simp only [List.singleton_append]
      rw [map_toldFrame_cons, map_toldFrame_cons, map_told_hear heard rfl,
        map_told_hear heard rfl]
      exact .failed .error
  | _ => cases about

end Flight

/-! ## Requests in the channel -/

/-- The requests that the channel took and that did not end: the one in the slot
and the pending ones. -/
def Captures.flights (captures : Captures) : List (Flight Subscription) :=
  captures.channel.repeating.toList ++ captures.channel.pending

def Captures.Carries (captures : Captures) (start : Start) : Prop :=
  ∃ flight ∈ captures.flights, flight.client = start.subscription

private theorem Captures.carries_iff_of_perm {captures : Captures} {start : Start}
    {added remaining : List (Flight Subscription)}
    (flights : captures.flights.Perm (added ++ remaining))
    (other : ∀ flight ∈ added, flight.client ≠ start.subscription) :
    captures.Carries start ↔ ∃ flight ∈ remaining, flight.client = start.subscription := by
  constructor
  · rintro ⟨flight, member, client⟩
    rcases List.mem_append.mp (flights.mem_iff.mp member) with new | stays
    · exact absurd client (other flight new)
    · exact ⟨flight, stays, client⟩
  · rintro ⟨flight, stays, client⟩
    exact ⟨flight, flights.mem_iff.mpr (List.mem_append_right _ stays), client⟩

namespace Ledger

variable {capabilities : Capabilities} {starts : List Start} {captures : Captures}
  (ledger : Ledger capabilities starts captures)
include ledger

theorem mem_of_mem_flights {flight : Flight Subscription} (member : flight ∈ captures.flights) :
    ∃ start ∈ starts, flight.IsOf start := by
  rcases List.mem_append.mp member with running | pending
  · obtain ⟨start, startMember, isOf, _⟩ := ledger.slot flight (Option.mem_toList.mp running)
    exact ⟨start, startMember, isOf⟩
  · obtain ⟨start, startMember, isOf, _⟩ := ledger.queue flight pending
    exact ⟨start, startMember, isOf⟩

theorem kind_of_running {flight : Flight Subscription}
    (running : captures.channel.repeating = some flight) : flight.client.kind = .repeating := by
  obtain ⟨start, _, ⟨client, _⟩, repeating⟩ := ledger.slot flight running
  rw [client]
  exact repeating

theorem kind_of_pending {flight : Flight Subscription}
    (pending : flight ∈ captures.channel.pending) : flight.client.kind ≠ .repeating := by
  obtain ⟨start, _, ⟨client, _⟩, once⟩ := ledger.queue flight pending
  rw [client]
  exact once

theorem client_eq {flight : Flight Subscription} (flightMember : flight ∈ captures.flights)
    {start : Start} (member : start ∈ starts)
    (same : flight.client.sequence = start.sequence) : flight.client = start.subscription := by
  obtain ⟨other, otherMember, client, _⟩ := ledger.mem_of_mem_flights flightMember
  rw [client] at same ⊢
  rw [ledger.eq_of_sequence_eq otherMember member same]

theorem flights_apart : (captures.flights.map (·.client.sequence)).Nodup := by
  unfold Captures.flights
  cases running : captures.channel.repeating with
  | none => exact ledger.apart
  | some flight =>
      rw [Option.toList_some, List.singleton_append, List.map_cons, List.nodup_cons]
      refine ⟨?_, ledger.apart⟩
      intro member
      obtain ⟨other, pending, same⟩ := List.mem_map.mp member
      have otherKind := ledger.kind_of_pending pending
      obtain ⟨start, startMember, ⟨client, _⟩, repeating⟩ := ledger.slot flight running
      have otherMember : other ∈ captures.flights := List.mem_append_right _ pending
      rw [client] at same
      rw [ledger.client_eq otherMember startMember same] at otherKind
      exact otherKind repeating

end Ledger

/-! ## Progress of one capture -/

/-- What a move tells about a start that was made before, and whether the channel has its
request before and after. -/
inductive Progress (start : Start) : Prop → Prop → List CaptureEvent → Prop
  | untouched {before after} (same : after ↔ before) : Progress start before after []
  | frame {before after events} (repeating : start.kind = .repeating) (has : before)
      (keeps : after) (told : FrameEvents start.sequence events) :
      Progress start before after events
  | stop {before after} (repeating : start.kind = .repeating) (has : before) (gone : ¬after) :
      Progress start before after [.sequenceCompleted start.sequence]
  | last {before after events} (once : start.kind ≠ .repeating) (has : before) (gone : ¬after)
      (told : FinalEvents start.sequence events) : Progress start before after events

namespace Ledger

variable {capabilities : Capabilities} {starts : List Start} {captures after : Captures}
  (ledger : Ledger capabilities starts captures) {start : Start} (member : start ∈ starts)

section

variable {α : Type} {leaving : List α} {tell : α → List Delivery}
include ledger member

/-- Some requests leave the channel, each told about under its own sequence, and requests of
other starts come in. A start whose request stays hears nothing. -/
theorem progress_leave (flightOf : α → Flight Subscription)
    (added remaining : List (Flight Subscription))
    (tagged : ∀ item, ∀ delivery ∈ tell item,
      delivery.event.sequence = (flightOf item).client.sequence)
    (split : captures.flights.Perm (leaving.map flightOf ++ remaining))
    (flights : after.flights.Perm (added ++ remaining))
    (other : ∀ flight ∈ added, flight.client ≠ start.subscription)
    (ends : ∀ item ∈ leaving, (flightOf item).client = start.subscription →
      captures.Carries start → ¬after.Carries start →
        Progress start (captures.Carries start) (after.Carries start)
          ((tell item).map (·.event))) :
    Progress start (captures.Carries start) (after.Carries start)
      (eventsOf start.sequence (leaving.flatMap tell)) := by
  have apart : ((leaving.map flightOf ++ remaining).map (·.client.sequence)).Nodup :=
    (split.map _).nodup_iff.mp ledger.flights_apart
  rw [List.map_append, List.map_map, List.nodup_append] at apart
  obtain ⟨leavingApart, _, separate⟩ := apart
  have carried := Captures.carries_iff_of_perm flights other
  -- Sequences in the channel are apart, so that at most one of the requests that leave is the
  -- one of the start, and then it does not remain as well.
  by_cases leaves : ∃ item ∈ leaving, (flightOf item).client = start.subscription
  · obtain ⟨item, itemMember, client⟩ := leaves
    have sequence : (flightOf item).client.sequence = start.sequence :=
      congrArg Subscription.sequence client
    have has : captures.Carries start :=
      ⟨flightOf item, split.mem_iff.mpr (List.mem_append_left _ (List.mem_map_of_mem itemMember)),
        client⟩
    have gone : ¬after.Carries start := by
      rw [carried]
      rintro ⟨flight, stays, flightClient⟩
      apply separate (flightOf item).client.sequence (List.mem_map_of_mem itemMember)
        flight.client.sequence (List.mem_map_of_mem stays)
      rw [client, flightClient]
    rw [← sequence, eventsOf_flatMap_of_mem tagged leavingApart itemMember]
    exact ends item itemMember client has gone
  · have silent : eventsOf start.sequence (leaving.flatMap tell) = [] := by
      apply eventsOf_flatMap_eq_nil tagged
      intro sequenceMember
      obtain ⟨item, itemMember, same⟩ := List.mem_map.mp sequenceMember
      have flightMember : flightOf item ∈ captures.flights :=
        split.mem_iff.mpr (List.mem_append_left _ (List.mem_map_of_mem itemMember))
      exact leaves ⟨item, itemMember, ledger.client_eq flightMember member same⟩
    have others : ∀ flight ∈ leaving.map flightOf, flight.client ≠ start.subscription := by
      intro flight flightMember client
      obtain ⟨item, itemMember, rfl⟩ := List.mem_map.mp flightMember
      exact leaves ⟨item, itemMember, client⟩
    rw [silent]
    exact .untouched (carried.trans (Captures.carries_iff_of_perm split others).symm)

end

variable (extent : captures.context.capabilities.activeArray.HasExtent)
include ledger member

private theorem progress_vacate (opened : captures.context.ended = false)
    {added : List (Flight Subscription)}
    (flights : after.flights = added ++ captures.channel.pending)
    (other : ∀ flight ∈ added, flight.client ≠ start.subscription) (frame : Nat) :
    Progress start (captures.Carries start) (after.Carries start)
      (eventsOf start.sequence (captures.channel.repeating.toList.flatMap
        (ReplayChannel.toldEnd captures.context.hear frame))) := by
  refine ledger.progress_leave member id added captures.channel.pending ?_
    (by simp [Captures.flights]) (.of_eq flights) other ?_
  · exact fun flight delivery told => (flight.belongsTo_of_mem_told delivery told).2
  · intro flight running client has gone
    have repeating := ledger.kind_of_running (Option.mem_toList.mp running)
    rw [id_eq] at client
    rw [flight.map_toldEnd fun _ => opened, client]
    rw [client] at repeating
    exact .stop repeating has gone

include extent in
private theorem progress_frame (opened : captures.context.ended = false)
    (flights : after.flights = captures.flights) {flight : Flight Subscription}
    (running : captures.channel.repeating = some flight) {step : ChannelStep}
    {reports : Nat → List Report} (about : step.repeatingReports? = some reports) (frame : Nat) :
    Progress start (captures.Carries start) (after.Carries start)
      (eventsOf start.sequence
        (ReplayChannel.toldFrame captures.context.hear flight (reports frame))) := by
  have flightMember : flight ∈ captures.flights :=
    List.mem_append_left _ (Option.mem_toList.mpr running)
  have kind := ledger.kind_of_running running
  by_cases client : flight.client = start.subscription
  · have sequence : flight.client.sequence = start.sequence := by
      rw [client]
      rfl
    have carried : captures.Carries start := ⟨flight, flightMember, client⟩
    have told := flight.frameEvents extent kind opened about frame
    rw [← eventsOf_eq_map flight.sequence_of_mem_toldFrame, sequence] at told
    refine .frame ?_ carried ?_ told
    · rw [client] at kind
      exact kind
    · unfold Captures.Carries
      rw [flights]
      exact carried
  · have silent : eventsOf start.sequence
        (ReplayChannel.toldFrame captures.context.hear flight (reports frame)) = [] := by
      apply eventsOf_eq_nil
      intro delivery told same
      rw [flight.sequence_of_mem_toldFrame delivery told] at same
      exact client (ledger.client_eq flightMember member same)
    rw [silent]
    refine .untouched ?_
    unfold Captures.Carries
    rw [flights]

include extent in
private theorem progress_drain (flights : after.flights = captures.channel.repeating.toList)
    {step : ChannelStep} {reports : Flight Subscription → Nat → List Report}
    (about : step.pendingReports? = some reports) (frame : Nat) :
    Progress start (captures.Carries start) (after.Carries start)
      (eventsOf start.sequence
        (ReplayChannel.toldDrain captures.context.hear reports frame
          captures.channel.pending)) := by
  have split : captures.flights.Perm
      ((captures.channel.pending.zipIdx frame).map Prod.fst ++
        captures.channel.repeating.toList) := by
    rw [List.zipIdx_map_fst]
    exact List.perm_append_comm
  refine ledger.progress_leave member Prod.fst [] captures.channel.repeating.toList ?_ split
    (.of_eq flights) (by simp) ?_
  · exact fun item => item.1.sequence_of_mem_toldFrame
  · rintro ⟨flight, number⟩ numbered client has gone
    have once := ledger.kind_of_pending (List.fst_mem_of_mem_zipIdx numbered)
    have told := flight.finalEvents extent once about number
    rw [client] at once told
    exact .last once has gone told

/-- All requests are aborted. Of a repeating request nothing is told then. -/
theorem progress_abort (flights : after.flights = []) (once : start.kind ≠ .repeating) :
    Progress start (captures.Carries start) (after.Carries start)
      (eventsOf start.sequence (captures.flights.flatMap
        (ReplayChannel.toldAbort { captures.context with ended := true }.hear))) := by
  refine ledger.progress_leave member id [] [] ?_ (by simp) (.of_eq flights) (by simp) ?_
  · exact fun flight delivery told =>
      (flight.belongsTo_of_mem_told delivery told).2
  · intro flight _ client has gone
    rw [id_eq] at client
    have kind : flight.client.kind ≠ .repeating := by
      rw [client]
      exact once
    rw [flight.map_toldAbort fun repeating => absurd repeating kind, client]
    exact .last once has gone .aborted

omit member extent in
theorem flights_eq_nil (ended : captures.context.ended = true) : captures.flights = [] := by
  have unbound : captures.sequencer = none := by
    cases bound : captures.sequencer with
    | none => rfl
    | some sequencer =>
        rw [ledger.opened (by simp [bound])] at ended
        cases ended
  unfold Captures.flights
  rw [(ledger.idle unbound).1, (ledger.idle unbound).2]
  rfl

omit extent in
/-- Every move advances a start by at most one frame or its end, a repeating one as long as
the session does not end. -/
theorem progress (extent : capabilities.activeArray.HasExtent) {step : SessionStep}
    {emitted : List Delivery} {outcome : Except Fault Reply} {after : Captures}
    (move : CaptureMove captures step emitted outcome after)
    (heard : start.kind = .repeating → after.context.ended = false) :
    Progress start (captures.Carries start) (after.Carries start)
      (eventsOf start.sequence emitted) := by
  have extent : captures.context.capabilities.activeArray.HasExtent := ledger.published ▸ extent
  cases move with
  | stay => exact .untouched Iff.rfl
  | configure => exact .untouched Iff.rfl
  | bind => exact .untouched Iff.rfl
  | parametrize => exact .untouched Iff.rfl
  | refuse => exact .untouched Iff.rfl
  | switch => exact .untouched Iff.rfl
  | release => exact .untouched Iff.rfl
  | @renew step sequencer snapshot receiver active bound room asked =>
      have opened := ledger.opened (by simp [bound])
      let flight := sequencer.flightOf captures.channel .repeating snapshot receiver
      refine @progress_vacate _ _ _ _ ledger _ member opened [flight] rfl ?_ _
      intro new newMember client
      rw [List.mem_singleton.mp newMember] at client
      exact ledger.nextId_ne bound room member (congrArg Subscription.sequence client).symm
  | @submit step sequencer kind snapshot receiver active bound room asked once =>
      let flight := sequencer.flightOf captures.channel kind snapshot receiver
      have different := ledger.nextId_ne bound room member
      have silent :
          eventsOf start.sequence [⟨receiver, .processStarted sequencer.nextId⟩] = [] := by
        apply eventsOf_eq_nil
        intro delivery deliveryMember same
        rw [List.mem_singleton.mp deliveryMember] at same
        exact different same.symm
      rw [silent]
      have entered : (captures.channel.repeating.toList ++
          (captures.channel.pending ++ [flight])).Perm ([flight] ++ captures.flights) := by
        rw [← List.append_assoc]
        exact List.perm_append_comm
      refine .untouched (Captures.carries_iff_of_perm entered ?_)
      intro new newMember client
      rw [List.mem_singleton.mp newMember] at client
      exact different (congrArg Subscription.sequence client).symm
  | stop active bound recorded =>
      have opened := ledger.opened (by simp [bound])
      exact @progress_vacate _ _ _ _ ledger _ member opened [] rfl (by simp) _
  | frame about running =>
      have opened : captures.context.ended = false := by
        cases ended : captures.context.ended with
        | false => rfl
        | true =>
            have empty := ledger.flights_eq_nil ended
            simp [Captures.flights, running] at empty
      exact ledger.progress_frame member extent opened rfl running about _
  | drain about =>
      exact ledger.progress_drain member extent (List.append_nil _) about _
  | finish bound state later parameters =>
      have once : start.kind ≠ .repeating := fun repeating => by cases heard repeating
      exact ledger.progress_abort member rfl once

end Ledger

end EyesFree
