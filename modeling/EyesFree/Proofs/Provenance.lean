import EyesFree.Proofs.ReadBack
import EyesFree.Proofs.Submission
import EyesFree.Proofs.Bundle

namespace EyesFree

/-! Where the values of a result come from: a client asked for them, the camera reported
them, or they stand for a combination of parameters. Between a request and the results
nothing changes a value. -/

/-! ## Stored parameters -/

namespace Metadata

variable {κ : Type} [Enumeration κ]

theorem entries_restrict (metadata : Metadata κ) (keys : KeySet κ) :
    (metadata.restrict keys).entries =
      metadata.entries.filter fun entry => keys.contains entry.1 := by
  unfold entries
  rw [List.filter_filterMap]
  refine List.filterMap_congr fun key _ => ?_
  rw [get_restrict]
  cases published : keys.contains key <;> cases metadata.get key <;>
    simp [Option.filter, published]

end Metadata

namespace Parameters

variable (capabilities : Capabilities) (parameters : Parameters) (request : CaptureRequest)

private theorem entries_set :
    (parameters.set capabilities request).2.entries =
      (request.restrict capabilities.requestKeys).entries.foldl
        (fun metadata entry => metadata.set entry.1 entry.2) parameters.entries := by
  rw [Metadata.entries_restrict, set]
  generalize request.entries = entries, 0 = applied
  induction entries generalizing applied parameters with
  | nil => rfl
  | cons entry rest induction =>
      rw [List.foldl_cons, List.filter_cons, induction]
      by_cases published : capabilities.requestKeys.contains entry.1
      · rw [if_pos published, if_pos published, List.foldl_cons]
      · rw [if_neg published, if_neg published]

/-- The published entries of a request count more than what was stored before. -/
theorem get_set (key : RequestKey) :
    (parameters.set capabilities request).2.entries.get key =
      ((request.restrict capabilities.requestKeys).get key).or (parameters.entries.get key) := by
  rw [entries_set, Metadata.get_foldl_set, ← Metadata.get_ofEntries, Metadata.ofEntries_entries]

theorem entries_set_empty :
    (empty.set capabilities request).2.entries = request.restrict capabilities.requestKeys := by
  refine Metadata.ext (funext fun key => ?_)
  have vacant : empty.entries.get key = none := rfl
  rw [get_set, vacant, Option.or_none]

theorem set_empty_of_published {capabilities : Capabilities} {request : CaptureRequest}
    (published : ∀ key, request.contains key → capabilities.requestKeys.contains key) :
    (empty.set capabilities request).2 = ⟨request⟩ := by
  have same : request.restrict capabilities.requestKeys = request := by
    refine Metadata.ext (funext fun key => ?_)
    rw [Metadata.get_restrict]
    split
    · rfl
    next unpublished =>
      exact (Option.not_isSome_iff_eq_none.mp fun held => unpublished (published key held)).symm
  exact congrArg Parameters.mk ((entries_set_empty capabilities request).trans same)

end Parameters

/-! ## Requests of a client -/

def SessionStep.request? : SessionStep → Option CaptureRequest
  | .operation (.setParameters request) => some request
  | .operation (.startTrigger request _) => some request
  | _ => none

def requestsOf (steps : List SessionStep) : List CaptureRequest :=
  steps.filterMap SessionStep.request?

private theorem requestsOf_append (first second : List SessionStep) :
    requestsOf (first ++ second) = requestsOf first ++ requestsOf second :=
  List.filterMap_append

private theorem mem_requestsOf {steps : List SessionStep} {place : Nat} {step : SessionStep}
    (found : steps[place]? = some step) {request : CaptureRequest}
    (asked : step.request? = some request) : request ∈ requestsOf steps :=
  List.mem_filterMap.mpr ⟨step, List.mem_of_getElem? found, asked⟩

private theorem requestsOf_take_subset (steps : List SessionStep) (place : Nat) :
    requestsOf (steps.take place) ⊆ requestsOf steps :=
  ((List.take_sublist place steps).filterMap _).subset

private theorem CaptureStep.origin {captures after : Captures} {step : SessionStep}
    {emitted : List Delivery} {outcome : Except Fault Reply}
    (next : CaptureStep captures step emitted outcome after) {key : RequestKey} {value : Value}
    (stored : after.context.parameters.entries.get key = some value) :
    captures.context.parameters.entries.get key = some value ∨
      ∃ request, step.request? = some request ∧ request.get key = some value := by
  cases next with
  | cut => exact .inl stored
  | moved move =>
      cases move with
      | parametrize parameters given =>
          obtain ⟨request, rfl, rfl⟩ := given
          rw [Parameters.get_set, Option.or_eq_some_iff] at stored
          rcases stored with new | ⟨_, old⟩
          · rw [Metadata.get_restrict] at new
            split at new
            · exact .inr ⟨request, rfl, new⟩
            · cases new
          · exact .inl old
      | finish bound state later parameters kept =>
          rcases kept with rfl | rfl
          · exact .inl stored
          · cases stored
      | release => cases stored
      | _ => exact .inl stored

def SessionState.isOpen : SessionState → Bool
  | .ending => false
  | .deinitialized => false
  | _ => true

private theorem CaptureStep.parameters_of_unasked {captures after : Captures} {step : SessionStep}
    {emitted : List Delivery} {outcome : Except Fault Reply}
    (next : CaptureStep captures step emitted outcome after) (unasked : step.request? = none)
    {parameters : Parameters}
    (kept : captures.state.isOpen → captures.context.parameters = parameters) :
    after.state.isOpen → after.context.parameters = parameters := by
  cases next with
  | cut => exact kept
  | moved move =>
      cases move with
      | parametrize parameters given =>
          obtain ⟨request, rfl, _⟩ := given
          cases unasked
      | configure uninitialized => exact fun _ => kept (by rw [uninitialized]; rfl)
      | bind configuring => exact fun _ => kept (by rw [configuring]; rfl)
      | finish bound state later parameters =>
          rcases later with rfl | rfl <;> exact nofun
      | release => exact nofun
      | _ => exact kept

private theorem CaptureStep.active_of_start {captures after : Captures} {step : SessionStep}
    {emitted : List Delivery} {outcome : Except Fault Reply}
    (next : CaptureStep captures step emitted outcome after) {start : Start}
    (started : step.start? captures.context outcome = some start) : captures.state = .active := by
  have accepted (unstarted : ∀ id, outcome ≠ .ok (.started id)) : captures.state = .active := by
    rw [SessionStep.start?_of_unstarted unstarted] at started
    cases started
  cases next with
  | cut => exact accepted (by simp)
  | moved move =>
      cases move with
      | renew active => exact active
      | submit active => exact active
      | stay unstarted => exact accepted unstarted
      | _ => exact accepted (by simp)

section

variable {capabilities : Capabilities} {config : SessionConfig} {surfaces : Surfaces}
  {steps : List SessionStep} {key : RequestKey} {value : Value}

private theorem origin_of_stored
    (stored : (stateAfter SessionStep.perform (World.fresh capabilities config surfaces)
      steps).captures.context.parameters.entries.get key = some value) :
    ∃ request ∈ requestsOf steps, request.get key = some value := by
  revert stored
  refine run_invariant SessionStep.perform
    (motive := fun steps world _ =>
      world.captures.context.parameters.entries.get key = some value →
        ∃ request ∈ requestsOf steps, request.get key = some value) ?_ ?_ steps
  · rintro ⟨⟩
  · intro steps step world known stored
    have ledger : Ledger capabilities _ world.captures := Ledger.reached steps
    rcases (ledger.captureStep step).origin stored with before | ⟨request, asked, given⟩
    · obtain ⟨request, member, given⟩ := known before
      exact ⟨request, by simp [requestsOf_append, member], given⟩
    · exact ⟨request, by simp [requestsOf, asked], given⟩

theorem origin_of_start {start : Start}
    (accepted : start ∈ acceptedStarts (World.fresh capabilities config surfaces) steps)
    (held : (key, value) ∈ start.parameters.entries) :
    ∃ request ∈ requestsOf steps, request.get key = some value := by
  obtain ⟨place, step, found, started⟩ := mem_acceptedStarts accepted
  have ledger := @Ledger.reached capabilities config surfaces (steps.take place)
  obtain ⟨made, _⟩ := SessionStep.madeBy_of_start? ledger.published started
  have stored (parameters : start.parameters = (stateAfter SessionStep.perform
      (World.fresh capabilities config surfaces)
      (steps.take place)).session.context.parameters.snapshot) :
      ∃ request ∈ requestsOf steps, request.get key = some value := by
    rw [parameters] at held
    obtain ⟨request, member, given⟩ := origin_of_stored (Metadata.mem_entries.mp held)
    exact ⟨request, requestsOf_take_subset steps place member, given⟩
  cases made with
  | repeating kind parameters => exact stored parameters
  | multiFrame kind parameters => exact stored parameters
  | trigger request kind parameters =>
      rw [parameters] at held
      exact ⟨request, mem_requestsOf found rfl,
        Metadata.mem_entries.mp (List.mem_filter.mp held).1⟩

private theorem parameters_of_unasked (before : List SessionStep) {rest : List SessionStep}
    (unasked : ∀ step ∈ rest, step.request? = none) :
    let fresh := World.fresh capabilities config surfaces
    let captures := (stateAfter SessionStep.perform fresh (before ++ rest)).captures
    captures.state.isOpen → captures.context.parameters =
      (stateAfter SessionStep.perform fresh before).captures.context.parameters := by
  intro fresh
  induction rest using List.reverseRecOn with
  | nil =>
      rw [List.append_nil]
      exact fun _ => rfl
  | append_singleton rest step induction =>
      have ledger := @Ledger.reached capabilities config surfaces (before ++ rest)
      rw [← List.append_assoc, stateAfter_concat]
      exact (ledger.captureStep step).parameters_of_unasked (unasked step (by simp))
        (induction fun other member => unasked other (by simp [member]))

theorem parameters_of_start_of_unasked {before rest : List SessionStep}
    (unasked : ∀ step ∈ rest, step.request? = none) {start : Start} :
    let fresh := World.fresh capabilities config surfaces
    let world := stateAfter SessionStep.perform fresh before
    start ∈ acceptedStarts world rest →
      start.parameters = world.captures.context.parameters.snapshot := by
  intro fresh world accepted
  obtain ⟨place, step, found, started⟩ := mem_acceptedStarts accepted
  have ledger := @Ledger.reached capabilities config surfaces (before ++ rest.take place)
  have same := @parameters_of_unasked capabilities config surfaces before (rest.take place)
    fun other member => unasked other (List.mem_of_mem_take member)
  simp only [stateAfter_append] at ledger same
  obtain ⟨made, _⟩ := SessionStep.madeBy_of_start? ledger.published started
  have active := (ledger.captureStep step).active_of_start started
  have stored := same (by rw [active]; rfl)
  cases made with
  | repeating kind parameters => exact parameters.trans (congrArg Parameters.snapshot stored)
  | multiFrame kind parameters => exact parameters.trans (congrArg Parameters.snapshot stored)
  | trigger request => cases unasked _ (List.mem_of_getElem? found)

end

/-! ## Synthesized results -/

private theorem Snapshot.mem_of_get? {snapshot : Snapshot} {key : RequestKey} {value : Value}
    (held : snapshot.get? key = some value) : (key, value) ∈ snapshot.entries := by
  obtain ⟨⟨other, _⟩, found, rfl⟩ := Option.map_eq_some_iff.mp held
  obtain rfl : other = key := by simpa using List.find?_some found
  exact List.mem_of_find?_eq_some found

theorem Parameters.get?_snapshot (parameters : Parameters) (key : RequestKey) :
    parameters.snapshot.get? key = parameters.entries.get key := by
  cases found : parameters.snapshot.get? key with
  | some value => exact (Metadata.mem_entries.mp (Snapshot.mem_of_get? found)).symm
  | none =>
      cases held : parameters.entries.get key with
      | none => rfl
      | some value =>
          have absent := List.find?_eq_none.mp (Option.map_eq_none_iff.mp found) (key, value)
            (Metadata.mem_entries.mpr held)
          exact absurd (decide_eq_true rfl) absent

namespace Capabilities

variable {capabilities : Capabilities} {snapshot : Snapshot} {result bundle : CaptureResult}

theorem get_of_synthesize_of_echoed
    (synthesized : capabilities.synthesize snapshot result = .ok bundle)
    {requestKey : RequestKey} {resultKey : ResultKey}
    (echoed : (requestKey, resultKey) ∈ echoedKeys) {value : Value}
    (held : snapshot.get? requestKey = some value) :
    bundle.get resultKey = some value := by
  obtain ⟨corners, target⟩ := exists_target_of_synthesize synthesized
  rw [get_of_synthesize_of_target target synthesized]
  simp only [echoedKeys, List.mem_cons, List.not_mem_nil, or_false, Prod.mk.injEq] at echoed
  rcases echoed with ⟨rfl, rfl⟩ | ⟨rfl, rfl⟩ | ⟨rfl, rfl⟩ <;> rw [Snapshot.overlay?, held] <;> rfl

/-- A real number of a result belongs to a parameter, was reported or is a coordinate of the
target on the active array. -/
theorem origin_of_synthesize (synthesized : capabilities.synthesize snapshot result = .ok bundle)
    {single : Single} (member : single ∈ bundle.singles) :
    single ∈ snapshot.singles ∨ single ∈ result.singles ∨
      ∃ corners, capabilities.activeArray.targetCoordinates = .ok corners ∧
        single ∈ (Value.points corners).singles := by
  obtain ⟨⟨key, value⟩, held, inside⟩ := List.mem_flatMap.mp member
  obtain ⟨corners, target⟩ := exists_target_of_synthesize synthesized
  have given := Metadata.mem_entries.mp held
  rw [get_of_synthesize_of_target target synthesized, Option.or_eq_some_iff] at given
  rcases given with overlaid | ⟨_, reported⟩
  · have parameter {requestKey : RequestKey} (found : snapshot.get? requestKey = some value) :
        single ∈ snapshot.singles :=
      List.mem_flatMap.mpr ⟨_, Snapshot.mem_of_get? found, inside⟩
    cases key with
    | paddingZoomFactor | translateViewport | rotateViewport => exact .inl (parameter overlaid)
    | maxPaddingZoomFactor =>
        rw [Snapshot.overlay?] at overlaid
        split at overlaid
        · exact .inl (parameter overlaid)
        · cases overlaid
    | targetCoordinates =>
        rw [Snapshot.overlay?] at overlaid
        split at overlaid
        next stable =>
          cases overlaid
          exact .inr (.inr ⟨corners, target stable, inside⟩)
        next => cases overlaid
    | autoZoom | paddingRegion | autoZoomPaddingRegion =>
        rw [Snapshot.overlay?] at overlaid
        split at overlaid
        · cases overlaid
          cases inside
        · cases overlaid
    | _ => cases overlaid
  · rw [Metadata.get_restrict] at reported
    split at reported
    · exact .inr (.inl (List.mem_flatMap.mpr ⟨_, Metadata.mem_entries.mpr reported, inside⟩))
    · cases reported

end Capabilities

end EyesFree
