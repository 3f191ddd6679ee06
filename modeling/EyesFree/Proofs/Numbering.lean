import EyesFree.Proofs.History
import EyesFree.Proofs.Refusals

namespace EyesFree

/-! The numbers of captures. Calls that ask for a capture of an active session are
counted, whether the channel takes the request or not, and the count is the id that a
call is answered with. -/

/-! ## Calls -/

def SessionStep.asksForCapture : SessionStep → Bool
  | .operation asked => asked.asksForCapture
  | _ => false

/-- What a step tried to start, if it asks for a capture of an active session: a start, or
nothing because it was refused. -/
def SessionStep.attempt? (world : ReplayWorld) (step : SessionStep) : Option (Option Start) :=
  if step.asksForCapture ∧ world.session.state = .active then
    some (step.start? world.session.context (step.perform world).outcome)
  else none

def attempts : ReplayWorld → List SessionStep → List (Option Start) :=
  notedBy SessionStep.perform fun world step => (step.attempt? world).toList

/-- The answer to a step that asks for a capture, whatever the state of the session. -/
def SessionStep.answer? (step : SessionStep) :
    Except Fault Reply → Option (Except Error SequenceId)
  | .ok (.started id) => if step.asksForCapture then some (.ok id) else none
  | .ok (.refused error) => if step.asksForCapture then some (.error error) else none
  | _ => none

def startAnswers : ReplayWorld → List SessionStep → List (Except Error SequenceId) :=
  notedBy SessionStep.perform fun world step => (step.answer? (step.perform world).outcome).toList

namespace SessionStep

variable {world : ReplayWorld} {step : SessionStep}

private theorem isSome_capture? (context : CaptureContext) (step : SessionStep) :
    (step.capture? context).isSome = step.asksForCapture := by
  cases step with
  | operation operation => cases operation <;> rfl
  | _ => rfl

private theorem capture?_eq_none (silent : ¬step.asksForCapture) (context : CaptureContext) :
    step.capture? context = none := by
  rw [← Option.not_isSome_iff_eq_none, isSome_capture?]
  exact silent

private theorem sequence_of_start? {context : CaptureContext} {id : SequenceId} {start : Start}
    (started : step.start? context (.ok (.started id)) = some start) : start.sequence = id := by
  unfold start? at started
  split at started
  next answered =>
    cases answered
    cases started
    rfl
  next => cases started

private theorem outcome_of_inactive (asks : step.asksForCapture)
    (inactive : world.session.state ≠ .active) :
    ∃ error, (step.perform world).outcome = .ok (.refused error) := by
  cases step with
  | operation asked =>
      rw [perform, Operation.perform_of_asks_of_inactive asks inactive]
      exact ⟨_, rfl⟩
  | _ => cases asks

private theorem start?_of_unattempted
    (elsewhere : ¬(step.asksForCapture ∧ world.session.state = .active)) :
    step.start? world.session.context (step.perform world).outcome = none := by
  by_cases asks : step.asksForCapture
  · obtain ⟨error, refused⟩ := outcome_of_inactive asks fun active => elsewhere ⟨asks, active⟩
    rw [refused]
    exact start?_of_unstarted (by simp)
  · simp [start?, capture?_eq_none asks]

private theorem filterMap_attempt? (world : ReplayWorld) (step : SessionStep) :
    (step.attempt? world).toList.filterMap id =
      (step.start? world.session.context (step.perform world).outcome).toList := by
  unfold attempt?
  split
  next attempted =>
    cases step.start? world.session.context (step.perform world).outcome <;> rfl
  next elsewhere =>
    rw [start?_of_unattempted elsewhere]
    rfl

private theorem isSome_answer?
    (lively : world.session.state = .active → world.session.sequencer.isSome)
    (step : SessionStep) :
    (step.answer? (step.perform world).outcome).isSome = step.asksForCapture := by
  cases asks : step.asksForCapture with
  | false =>
      unfold answer?
      split <;> simp [asks]
  | true =>
      by_cases active : world.session.state = .active
      · obtain ⟨sequencer, bound⟩ := Option.isSome_iff_exists.mp (lively active)
        cases step with
        | operation asked =>
            obtain ⟨performed, answers, equal⟩ := Operation.perform_of_asks asks active bound
            rw [perform, equal]
            cases answers <;> simp [answer?, asks, Except.map, Reply.ofOutcome]
        | _ => cases asks
      · obtain ⟨error, refused⟩ := outcome_of_inactive asks active
        simp [refused, answer?, asks]

private theorem filterMap_answer? (context : CaptureContext) (step : SessionStep)
    (outcome : Except Fault Reply) :
    (step.answer? outcome).toList.filterMap Except.toOption =
      (step.start? context outcome).toList.map Start.sequence := by
  cases outcome with
  | error fault =>
      rw [start?_of_unstarted (by simp)]
      rfl
  | ok reply =>
      cases reply with
      | started id =>
          by_cases asks : step.asksForCapture
          · obtain ⟨⟨kind, snapshot, receiver⟩, captured⟩ :=
              Option.isSome_iff_exists.mp ((isSome_capture? context step).trans asks)
            rw [start?_of_started captured]
            simp only [answer?, asks]
            rfl
          · simp [answer?, asks, start?, capture?_eq_none asks]
      | refused error =>
          rw [start?_of_unstarted (by simp)]
          simp only [answer?]
          split <;> rfl
      | _ =>
          rw [start?_of_unstarted (by simp)]
          rfl

end SessionStep

private theorem filterMap_attempts (world : ReplayWorld) (steps : List SessionStep) :
    (attempts world steps).filterMap id = acceptedStarts world steps := by
  induction steps generalizing world with
  | nil => rfl
  | cons step rest induction =>
      have first := step.filterMap_attempt? world
      have later := induction (step.perform world).state
      simp only [attempts, notedBy, acceptedStarts] at later ⊢
      rw [List.filterMap_append, first, later]

private theorem filterMap_startAnswers (world : ReplayWorld) (steps : List SessionStep) :
    (startAnswers world steps).filterMap Except.toOption =
      (acceptedStarts world steps).map Start.sequence := by
  induction steps generalizing world with
  | nil => rfl
  | cons step rest induction =>
      have first := step.filterMap_answer? world.session.context (step.perform world).outcome
      have later := induction (step.perform world).state
      simp only [startAnswers, notedBy, acceptedStarts] at later ⊢
      rw [List.filterMap_append, first, later, List.map_append]

/-! ## The count -/

/-- What the attempts so far tell about the counter and the ids: the counter follows their
number up to the limit, and the id of a start is its place among the attempts. -/
structure Numbered (calls : List (Option Start)) (captures : Captures) : Prop where
  early : captures.state = .uninitialized ∨ captures.state = .configuring → calls = []
  counted : ∀ sequencer, captures.sequencer = some sequencer →
    sequencer.next = min calls.length SequenceId.limit + 1
  numbered : ∀ place start, calls[place]? = some (some start) →
    start.sequence.number.toNat = place + 1

namespace Numbered

variable {calls : List (Option Start)} {captures after : Captures}

private theorem unattempted (numbered : Numbered calls captures) {step : SessionStep}
    {emitted : List Delivery} {outcome : Except Fault Reply}
    (next : CaptureStep captures step emitted outcome after)
    (elsewhere : captures.state = .active → step.capture? captures.context = none) :
    Numbered calls after := by
  have absent (active : captures.state = .active) :
      ¬(step.capture? captures.context).isSome := by simp [elsewhere active]
  cases next with
  | cut remaining tells => exact { numbered with }
  | moved move =>
      cases move with
      | stay unstarted => exact numbered
      | configure uninitialized =>
          exact { numbered with early := fun _ => numbered.early (.inl uninitialized) }
      | bind configuring =>
          have empty := numbered.early (.inr configuring)
          exact { numbered with early := by simp, counted := by simp [empty] }
      | parametrize parameters => exact { numbered with }
      | refuse active bound asked => exact absurd asked (absent active)
      | renew active bound room asked => exact absurd (by simp [asked]) (absent active)
      | submit active bound room asked => exact absurd (by simp [asked]) (absent active)
      | @stop step sequencer active bound recorded =>
          refine { numbered with counted := ?_ }
          intro _ equal
          cases equal
          exact numbered.counted sequencer bound
      | switch rejecting => exact { numbered with }
      | frame about running => exact { numbered with }
      | drain about => exact { numbered with }
      | finish bound state later parameters =>
          exact { numbered with
            early := by rcases later with rfl | rfl <;> simp [Captures.finished]
            counted := by simp [Captures.finished] }
      | release unbound => exact { numbered with early := by simp }

private theorem attempted (numbered : Numbered calls captures) (start : Option Start)
    (active : after.state = .active)
    (counted : ∀ sequencer, after.sequencer = some sequencer →
      sequencer.next = min (calls.length + 1) SequenceId.limit + 1)
    (named : ∀ accepted, start = some accepted →
      accepted.sequence.number.toNat = calls.length + 1) : Numbered (calls ++ [start]) after where
  early := by simp [active]
  counted := by simpa using counted
  numbered := by
    intro place accepted found
    rw [List.getElem?_append] at found
    split at found
    · exact numbered.numbered place accepted found
    next past =>
      rw [List.getElem?_singleton] at found
      split at found
      next last =>
        rw [named accepted (Option.some.inj found)]
        omega
      next => cases found

private theorem attempt {world : ReplayWorld} (numbered : Numbered calls world.captures)
    (lively : world.session.state = .active → world.session.sequencer.isSome)
    {operation : Operation} (asks : operation.asksForCapture)
    (active : world.session.state = .active) :
    let performed := (SessionStep.operation operation).perform world
    Numbered (calls ++
        [(SessionStep.operation operation).start? world.session.context performed.outcome])
      performed.state.captures := by
  obtain ⟨sequencer, bound⟩ := Option.isSome_iff_exists.mp (lively active)
  have count := numbered.counted sequencer bound
  obtain ⟨performed, answers, equal⟩ := Operation.perform_of_asks asks active bound
  rw [SessionStep.perform, equal]
  -- Without ids left the counter stays while attempts go on, which the minimum allows for.
  cases answers with
  | exhausted used =>
      refine numbered.attempted _ active ?_ ?_
      · rintro _ ⟨⟩
        dsimp only
        omega
      · simp [Except.map, Reply.ofOutcome, SessionStep.start?_of_unstarted]
  | rejected room rejecting =>
      refine numbered.attempted _ active ?_ ?_
      · rintro _ ⟨⟩
        simp only [Sequencer.advanced]
        omega
      · simp [Except.map, Reply.ofOutcome, SessionStep.start?_of_unstarted]
  | accepted room accepting next =>
      refine numbered.attempted _ active ?_ ?_
      · rintro _ ⟨⟩
        dsimp only
        omega
      · intro accepted started
        rw [SessionStep.sequence_of_start? started, Sequencer.toNat_nextId room]
        omega

private theorem step {world : ReplayWorld} (numbered : Numbered calls world.captures)
    (lively : world.session.state = .active → world.session.sequencer.isSome)
    (step : SessionStep) :
    Numbered (calls ++ (step.attempt? world).toList) (step.perform world).state.captures := by
  unfold SessionStep.attempt?
  split
  next attempted =>
    obtain ⟨asks, active⟩ := attempted
    cases step with
    | operation asked => exact numbered.attempt lively asks active
    | _ => cases asks
  next elsewhere =>
    rw [Option.toList_none, List.append_nil]
    refine numbered.unattempted (step.captureStep lively) ?_
    intro active
    exact SessionStep.capture?_eq_none (fun asks => elsewhere ⟨asks, active⟩) _

private theorem outcome_of_asks {world : ReplayWorld} (numbered : Numbered calls world.captures)
    (lively : world.session.state = .active → world.session.sequencer.isSome)
    {operation : Operation} (asks : operation.asksForCapture)
    (active : world.session.state = .active) (room : calls.length < SequenceId.limit) :
    let outcome := (operation.perform world).outcome
    (world.channel.rejecting = false →
      ∃ id, outcome = .ok (.started id) ∧ id.number.toNat = calls.length + 1) ∧
      (world.channel.rejecting = true → outcome = .ok (.refused ReplayChannel.rejection)) := by
  obtain ⟨sequencer, bound⟩ := Option.isSome_iff_exists.mp (lively active)
  have count := numbered.counted sequencer bound
  obtain ⟨performed, answers, equal⟩ := Operation.perform_of_asks asks active bound
  rw [equal]
  cases answers with
  | exhausted used => omega
  | rejected left rejecting =>
      exact ⟨fun accepting => absurd accepting (by simp [rejecting]), fun _ => rfl⟩
  | accepted left accepting next =>
      refine ⟨fun _ => ⟨sequencer.nextId, rfl, ?_⟩, fun rejecting => ?_⟩
      · rw [Sequencer.toNat_nextId left]
        omega
      · exact absurd rejecting (by simp [accepting])

end Numbered

/-! ## Runs -/

section

variable (capabilities : Capabilities) (config : SessionConfig) (surfaces : Surfaces)
  (steps : List SessionStep)

private theorem numbered_run :
    let fresh := World.fresh capabilities config surfaces
    Numbered (attempts fresh steps) (stateAfter SessionStep.perform fresh steps).captures := by
  let fresh := World.fresh capabilities config surfaces
  have initial : Numbered [] fresh.captures :=
    ⟨fun _ => rfl, by simp [fresh, World.fresh, World.captures, Session.new], by simp⟩
  refine run_invariant SessionStep.perform
    (motive := fun steps world _ => Numbered (attempts fresh steps) world.captures)
    initial ?_ steps
  intro steps step world numbered
  have ledger := @Ledger.reached capabilities config surfaces steps
  rw [attempts, notedBy_concat]
  exact numbered.step ledger.lively step

/-- Starts are accepted in the order of their ids. -/
theorem pairwise_acceptedStarts :
    (acceptedStarts (World.fresh capabilities config surfaces) steps).Pairwise
      fun earlier later =>
        earlier.sequence.number.toNat < later.sequence.number.toNat := by
  have numbered := (numbered_run capabilities config surfaces steps).numbered
  rw [← filterMap_attempts, List.pairwise_filterMap, List.pairwise_iff_getElem]
  intro place next inside nextInside before start found later laterFound
  have first := numbered place start (List.getElem?_eq_some_iff.mpr ⟨inside, found⟩)
  have second := numbered next later (List.getElem?_eq_some_iff.mpr ⟨nextInside, laterFound⟩)
  omega

private theorem number_of_mem_acceptedStarts {start : Start}
    (member : start ∈ acceptedStarts (World.fresh capabilities config surfaces) steps) :
    ∃ place, (attempts (World.fresh capabilities config surfaces) steps)[place]? =
        some (some start) ∧ start.sequence.number.toNat = place + 1 := by
  rw [← filterMap_attempts, List.mem_filterMap] at member
  obtain ⟨attempt, attempted, same⟩ := member
  obtain ⟨place, found⟩ := List.mem_iff_getElem?.mp attempted
  rw [show attempt = some start from same] at found
  exact ⟨place, found, (numbered_run capabilities config surfaces steps).numbered place start found⟩

private theorem length_startAnswers :
    (startAnswers (World.fresh capabilities config surfaces) steps).length =
      steps.countP SessionStep.asksForCapture := by
  let fresh := World.fresh capabilities config surfaces
  refine @run_invariant _ _ _ _ SessionStep.perform fresh
    (fun steps _ _ => (startAnswers fresh steps).length = steps.countP SessionStep.asksForCapture)
    rfl ?_ steps
  intro steps step world counted
  have ledger := @Ledger.reached capabilities config surfaces steps
  rw [startAnswers, notedBy_concat, List.length_append, List.countP_append,
    Option.length_toList, step.isSome_answer? ledger.lively, List.countP_singleton]
  exact congrArg (· + _) counted

end

/-! ## Numbers across the platform boundary -/

namespace SequenceId

private theorem raw_eq_neg_one_iff (answer : Except Error SequenceId) :
    raw answer = -1 ↔ ∃ error, answer = .error error := by
  cases answer with
  | error error => simp [raw]
  | ok id =>
      simp only [raw, reduceCtorEq, exists_false, iff_false]
      omega

private theorem raw_ok {id : SequenceId} (within : id.number.toNat ≤ limit) :
    raw (.ok id) = id.number.toNat := by
  simp only [raw]
  omega

private theorem filter_map_raw (answers : List (Except Error SequenceId)) :
    (answers.map raw).filter (· ≠ -1) =
      (answers.filterMap Except.toOption).map fun id => raw (.ok id) := by
  induction answers with
  | nil => rfl
  | cons answer rest induction =>
      cases answer with
      | error error =>
          rw [List.map_cons, List.filter_cons_of_neg (by simp [raw]), induction]
          rfl
      | ok id =>
          have accepted : raw (.ok id) ≠ -1 := by simp [raw_eq_neg_one_iff]
          rw [List.map_cons, List.filter_cons_of_pos (by simpa using accepted), induction]
          rfl

end SequenceId

/-! ## Every call of a run -/

section

variable (capabilities : Capabilities) (config : SessionConfig) (surfaces : Surfaces)
  {steps : List SessionStep}

private theorem attempts_eq_of_getElem? {place : Nat} {operation : Operation}
    (found : steps[place]? = some (.operation operation)) (asks : operation.asksForCapture)
    (world : ReplayWorld) :
    let before := stateAfter SessionStep.perform world (steps.take place)
    before.session.state = .active →
      ∃ later, attempts world steps = attempts world (steps.take place) ++
        (SessionStep.operation operation).start? before.session.context
          ((SessionStep.operation operation).perform before).outcome :: later := by
  intro before active
  obtain ⟨later, split⟩ := notedBy_eq_of_getElem? SessionStep.perform
    (fun world step => (step.attempt? world).toList) found world
  refine ⟨later, split.trans ?_⟩
  have attempted : (SessionStep.operation operation).asksForCapture ∧
      before.session.state = .active := ⟨asks, active⟩
  simp only [SessionStep.attempt?]
  rw [if_pos attempted, Option.toList_some, List.append_assoc]
  rfl

private theorem number_ne_of_refused {earlier later : List (Option Start)}
    (refused : attempts (World.fresh capabilities config surfaces) steps =
      earlier ++ none :: later) :
    ∀ delivery ∈ emittedBy SessionStep.perform (World.fresh capabilities config surfaces) steps,
      delivery.event.sequence.number.toNat ≠ earlier.length + 1 := by
  intro delivery told same
  obtain ⟨start, member, _, sequence⟩ :=
    addressed_run capabilities config surfaces steps delivery told
  obtain ⟨place, found, number⟩ :=
    number_of_mem_acceptedStarts capabilities config surfaces steps member
  have numbered : start.sequence.number.toNat = earlier.length + 1 := by
    rw [← same, sequence]
    rfl
  obtain rfl : place = earlier.length := by omega
  rw [refused, List.getElem?_append_right (Nat.le_refl _), Nat.sub_self] at found
  cases found

private theorem outcome_of_attempt {place : Nat} {operation : Operation}
    (found : steps[place]? = some (.operation operation)) (asks : operation.asksForCapture) :
    let fresh := World.fresh capabilities config surfaces
    let before := stateAfter SessionStep.perform fresh (steps.take place)
    let earlier := attempts fresh (steps.take place)
    let outcome := ((SessionStep.operation operation).perform before).outcome
    (attempts fresh steps).length ≤ SequenceId.limit → before.session.state = .active →
      (before.channel.rejecting = false →
        ∃ id, outcome = .ok (.started id) ∧ id.number.toNat = earlier.length + 1) ∧
      (before.channel.rejecting = true →
        outcome = .ok (.refused ReplayChannel.rejection) ∧
          ∃ later, attempts fresh steps = earlier ++ none :: later) := by
  intro fresh before earlier outcome within active
  obtain ⟨later, split⟩ := attempts_eq_of_getElem? found asks fresh active
  have ledger := @Ledger.reached capabilities config surfaces (steps.take place)
  have numbered := numbered_run capabilities config surfaces (steps.take place)
  have room : earlier.length < SequenceId.limit := by
    have longer : (attempts fresh steps).length = earlier.length + (later.length + 1) := by
      rw [split, List.length_append, List.length_cons]
    omega
  obtain ⟨accepted, rejected⟩ := numbered.outcome_of_asks ledger.lively asks active room
  refine ⟨accepted, fun rejecting => ⟨rejected rejecting, later, ?_⟩⟩
  have refused : outcome = .ok (.refused ReplayChannel.rejection) := rejected rejecting
  rw [split, show ((SessionStep.operation operation).perform before).outcome = _ from refused,
    SessionStep.start?_of_unstarted (by simp)]

/-- The `n`-th call for a capture that is made while the session is active is answered with
the id `n` if the channel accepts it, and otherwise nobody ever hears of that id; other
calls take no id. So the ids of a run increase, and across the platform boundary the failed
calls are answered with minus one and the others with increasing positive numbers. -/
theorem sequence_numbering (steps : List SessionStep) :
    let fresh := World.fresh capabilities config surfaces
    (attempts fresh steps).length ≤ SequenceId.limit →
      (∀ place operation, steps[place]? = some (.operation operation) →
        operation.asksForCapture →
          let before := stateAfter SessionStep.perform fresh (steps.take place)
          let number := (attempts fresh (steps.take place)).length + 1
          let outcome := ((SessionStep.operation operation).perform before).outcome
          (before.session.state ≠ .active →
            outcome = .ok (.refused (.invalidState operation.name before.session.state))) ∧
          (before.session.state = .active → before.channel.rejecting = false →
            ∃ id, outcome = .ok (.started id) ∧ id.number.toNat = number) ∧
          (before.session.state = .active → before.channel.rejecting = true →
            outcome = .ok (.refused ReplayChannel.rejection) ∧
              ∀ delivery ∈ emittedBy SessionStep.perform fresh steps,
                delivery.event.sequence.number.toNat ≠ number)) ∧
      (startAnswers fresh steps).length = steps.countP SessionStep.asksForCapture ∧
      ((startAnswers fresh steps).filterMap Except.toOption).Pairwise
        (fun earlier later => earlier.number < later.number) ∧
      (∀ answer ∈ startAnswers fresh steps,
        SequenceId.raw answer = -1 ↔ ∃ error, answer = .error error) ∧
      let raws := ((startAnswers fresh steps).map SequenceId.raw).filter (· ≠ -1)
      raws.Pairwise (· < ·) ∧ ∀ raw ∈ raws, 0 < raw := by
  intro fresh within
  have increasing := pairwise_acceptedStarts capabilities config surfaces steps
  have bounded : ∀ start ∈ acceptedStarts fresh steps,
      0 < start.sequence.number.toNat ∧ start.sequence.number.toNat ≤ SequenceId.limit := by
    intro start member
    obtain ⟨place, found, number⟩ :=
      number_of_mem_acceptedStarts capabilities config surfaces steps member
    have inside := (List.getElem?_eq_some_iff.mp found).1
    change place < (attempts fresh steps).length at inside
    omega
  refine ⟨?_, length_startAnswers capabilities config surfaces steps, ?_,
    fun answer _ => SequenceId.raw_eq_neg_one_iff answer, ?_⟩
  · intro place operation found asks before number outcome
    have attempted := outcome_of_attempt capabilities config surfaces found asks within
    refine ⟨?_, fun active => (attempted active).1, ?_⟩
    · intro inactive
      exact congrArg Performed.outcome (Operation.perform_of_asks_of_inactive asks inactive)
    · intro active rejecting
      obtain ⟨rejected, later, refused⟩ := (attempted active).2 rejecting
      exact ⟨rejected, number_ne_of_refused capabilities config surfaces refused⟩
  · rw [filterMap_startAnswers, List.pairwise_map]
    exact increasing.imp UInt32.lt_iff_toNat_lt.mpr
  · intro raws
    have same : raws = (acceptedStarts fresh steps).map fun start =>
        (start.sequence.number.toNat : Int) := by
      simp only [raws]
      rw [SequenceId.filter_map_raw, filterMap_startAnswers, List.map_map]
      exact List.map_congr_left fun start member => SequenceId.raw_ok (bounded start member).2
    rw [same, List.pairwise_map]
    refine ⟨increasing.imp Int.ofNat_lt.mpr, ?_⟩
    intro raw member
    obtain ⟨start, startMember, rfl⟩ := List.mem_map.mp member
    exact Int.natCast_pos.mpr (bounded start startMember).1

end

/-- Calls of every kind, some before the session is active and some
while the channel rejects. -/
def assortment : List SessionStep :=
  [.operation (.startMultiFrame "early"), .operation (.initSession "0" .absent .absent),
    .operation .startSession, .operation (.startRepeating "preview"), .channel (.reject true),
    .operation (.startMultiFrame "lost"), .channel (.reject false),
    .operation (.startTrigger .empty "focus"), .channel (.completePending 9)]

theorem sequence_numbering_assortment :
    (attempts World.ordinary assortment).length ≤ SequenceId.limit ∧
      (startAnswers World.ordinary assortment).map SequenceId.raw = [-1, 1, -1, 3] ∧
      ((startAnswers World.ordinary assortment).filterMap Except.toOption).Pairwise
        (fun earlier later => earlier.number < later.number) ∧
      ∀ delivery ∈ emittedBy SessionStep.perform World.ordinary assortment,
        delivery.event.sequence.number.toNat ≠ 2 := by
  have within : (attempts World.ordinary assortment).length ≤ SequenceId.limit := by
    decide +kernel
  obtain ⟨calls, _, increasing, _⟩ := sequence_numbering (.eyesFree (.ofExtent 4000 3000))
    ⟨4, "relay"⟩ {} assortment within
  have lost := calls 5 (.startMultiFrame "lost") rfl rfl
  exact ⟨within, by decide +kernel, increasing,
    (lost.2.2 (by decide +kernel) (by decide +kernel)).2⟩

end EyesFree
