import EyesFree.Proofs.Ledger

namespace EyesFree

/-! What clients hear of the reports of a channel, seen from one sequence. A request is
told about under its own sequence only, so that among requests of different sequences
each hears its own part. -/

/-- The events of one sequence, to whomever they went. -/
def eventsOf (sequence : SequenceId) (deliveries : List Delivery) : List CaptureEvent :=
  EventLog.forSequence (deliveries.map (·.event)) sequence

def Delivery.BelongsTo (delivery : Delivery) (client : Subscription) : Prop :=
  delivery.receiver = client.receiver ∧ delivery.event.sequence = client.sequence

section

variable {α : Type} {items : List α} {key : α → SequenceId} {tell : α → List Delivery}
  {sequence : SequenceId} {deliveries : List Delivery}

@[simp] theorem eventsOf_append (first second : List Delivery) :
    eventsOf sequence (first ++ second) = eventsOf sequence first ++ eventsOf sequence second := by
  simp [eventsOf, EventLog.forSequence]

theorem eventsOf_eq_map (tagged : ∀ delivery ∈ deliveries, delivery.event.sequence = sequence) :
    eventsOf sequence deliveries = deliveries.map (·.event) := by
  unfold eventsOf EventLog.forSequence
  rw [List.filter_eq_self]
  intro event member
  obtain ⟨delivery, deliveryMember, rfl⟩ := List.mem_map.mp member
  exact decide_eq_true (tagged delivery deliveryMember)

theorem eventsOf_eq_nil (other : ∀ delivery ∈ deliveries, delivery.event.sequence ≠ sequence) :
    eventsOf sequence deliveries = [] := by
  unfold eventsOf EventLog.forSequence
  rw [List.filter_eq_nil_iff]
  intro event member
  obtain ⟨delivery, deliveryMember, rfl⟩ := List.mem_map.mp member
  simpa using other delivery deliveryMember

theorem eventsOf_flatMap_eq_nil
    (tagged : ∀ item, ∀ delivery ∈ tell item, delivery.event.sequence = key item)
    (absent : sequence ∉ items.map key) : eventsOf sequence (items.flatMap tell) = [] := by
  apply eventsOf_eq_nil
  intro delivery member same
  obtain ⟨item, itemMember, told⟩ := List.mem_flatMap.mp member
  apply absent
  rw [← same, tagged item delivery told]
  exact List.mem_map_of_mem itemMember

theorem eventsOf_flatMap_of_mem
    (tagged : ∀ item, ∀ delivery ∈ tell item, delivery.event.sequence = key item)
    (apart : (items.map key).Nodup) {item : α} (member : item ∈ items) :
    eventsOf (key item) (items.flatMap tell) = (tell item).map (·.event) := by
  induction items with
  | nil => cases member
  | cons first rest induction =>
      obtain ⟨absent, restApart⟩ := List.nodup_cons.mp apart
      rw [List.flatMap_cons, eventsOf_append]
      rcases List.mem_cons.mp member with rfl | member
      · rw [eventsOf_eq_map (tagged item), eventsOf_flatMap_eq_nil tagged absent, List.append_nil]
      · have different : key first ≠ key item := fun equal =>
          absent (equal ▸ List.mem_map_of_mem member)
        have silent : eventsOf (key item) (tell first) = [] :=
          eventsOf_eq_nil fun delivery told => tagged first delivery told ▸ different
        rw [silent, List.nil_append]
        exact induction restApart member

end

/-! ## Reports to one client -/

namespace Subscription

variable {capabilities : Capabilities} {subscription : Subscription} {request : Request}
  {result : CaptureResult}

def next (subscription : Subscription) : List CaptureEvent :=
  if subscription.kind = .repeating then [.processStarted subscription.sequence] else []

theorem events_eq_of_untimed (untimed : result.sensorTimestamp = none) :
    subscription.events capabilities request (.completed result) = .ok subscription.next := by
  simp only [Subscription.events, completed, untimed, next, pure, Except.pure, bind, Except.bind,
    List.nil_append]

theorem events_eq_of_timed {timestamp : Timestamp} {bundle : CaptureResult}
    (timed : result.sensorTimestamp = some timestamp)
    (synthesized : capabilities.synthesize request.parameters result = .ok bundle) :
    subscription.events capabilities request (.completed result) =
      .ok (.completed subscription.sequence timestamp bundle :: subscription.next) := by
  simp only [Subscription.events, completed, timed, synthesized, next, pure, Except.pure, bind,
    Except.bind, List.singleton_append]

theorem events_eq_of_fault {timestamp : Timestamp} {fault : Fault}
    (timed : result.sensorTimestamp = some timestamp)
    (failed : capabilities.synthesize request.parameters result = .error fault) :
    subscription.events capabilities request (.completed result) = .error fault := by
  simp only [Subscription.events, completed, timed, failed, bind, Except.bind]

private theorem sequence_of_mem_next {event : CaptureEvent} (member : event ∈ subscription.next) :
    event.sequence = subscription.sequence := by
  unfold next at member
  split at member
  · rw [List.mem_singleton.mp member]
    rfl
  · cases member

private theorem sequence_of_mem_events {report : Report} {events : List CaptureEvent}
    (equal : subscription.events capabilities request report = .ok events) :
    ∀ event ∈ events, event.sequence = subscription.sequence := by
  intro event member
  cases report with
  | completed result =>
      cases timed : result.sensorTimestamp with
      | none =>
          rw [events_eq_of_untimed timed] at equal
          cases equal
          exact sequence_of_mem_next member
      | some timestamp =>
          cases synthesized : capabilities.synthesize request.parameters result with
          | error fault =>
              rw [events_eq_of_fault timed synthesized] at equal
              cases equal
          | ok bundle =>
              rw [events_eq_of_timed timed synthesized] at equal
              cases equal
              rcases List.mem_cons.mp member with rfl | member
              · rfl
              · exact sequence_of_mem_next member
  | progressed partly =>
      cases equal
      cases member
  | _ =>
      cases equal
      rw [List.mem_singleton.mp member]
      rfl

end Subscription

namespace Flight

variable {context : CaptureContext} {flight : Flight Subscription}

theorem told_hear_of_held (repeating : flight.client.kind = .repeating)
    (ended : context.ended = true) (report : Report) : flight.told context.hear report = [] := by
  simp [told, Hearing.told, CaptureContext.hear, Subscription.deliveries, repeating, ended]

theorem told_hear {report : Report} {events : List CaptureEvent}
    (heard : flight.client.kind = .repeating → context.ended = false)
    (equal : flight.client.events context.capabilities flight.request report = .ok events) :
    flight.told context.hear report =
      events.map fun event => ⟨flight.client.receiver, event⟩ := by
  have unheld : ¬(flight.client.kind = .repeating ∧ context.ended = true) := by
    rintro ⟨repeating, ended⟩
    rw [heard repeating] at ended
    cases ended
  simp only [told, Hearing.told, CaptureContext.hear, Subscription.deliveries, if_neg unheld,
    equal]
  rfl

theorem map_told_hear {report : Report} {events : List CaptureEvent}
    (heard : flight.client.kind = .repeating → context.ended = false)
    (equal : flight.client.events context.capabilities flight.request report = .ok events) :
    (flight.told context.hear report).map (·.event) = events := by
  rw [told_hear heard equal, List.map_map]
  exact List.map_id events

theorem told_hear_of_fault {report : Report} {fault : Fault}
    (failed : flight.client.events context.capabilities flight.request report = .error fault) :
    flight.told context.hear report = [] := by
  by_cases held : flight.client.kind = .repeating ∧ context.ended = true
  · exact told_hear_of_held held.1 held.2 report
  · simp only [told, Hearing.told, CaptureContext.hear, Subscription.deliveries, if_neg held,
      failed]
    rfl

theorem belongsTo_of_mem_told {report : Report} :
    ∀ delivery ∈ flight.told context.hear report, delivery.BelongsTo flight.client := by
  intro delivery member
  by_cases held : flight.client.kind = .repeating ∧ context.ended = true
  · rw [told_hear_of_held held.1 held.2] at member
    cases member
  · have heard : flight.client.kind = .repeating → context.ended = false := fun repeating =>
      Bool.eq_false_iff.mpr fun ended => held ⟨repeating, ended⟩
    cases equal : flight.client.events context.capabilities flight.request report with
    | error fault =>
        rw [told_hear_of_fault equal] at member
        cases member
    | ok events =>
        rw [told_hear heard equal] at member
        obtain ⟨event, eventMember, rfl⟩ := List.mem_map.mp member
        exact ⟨rfl, Subscription.sequence_of_mem_events equal event eventMember⟩

private theorem belongsTo_of_mem_toldFrame {reports : List Report} :
    ∀ delivery ∈ ReplayChannel.toldFrame context.hear flight reports,
      delivery.BelongsTo flight.client := by
  intro delivery member
  obtain ⟨report, _, told⟩ := List.mem_flatMap.mp member
  exact belongsTo_of_mem_told delivery told

theorem sequence_of_mem_toldFrame {reports : List Report} :
    ∀ delivery ∈ ReplayChannel.toldFrame context.hear flight reports,
      delivery.event.sequence = flight.client.sequence := fun delivery member =>
  (belongsTo_of_mem_toldFrame delivery member).2

end Flight

end EyesFree
