import EyesFree.Capture.SequencerThreads
import EyesFree.Proofs.Sequencer

namespace EyesFree

/-! The record of the running repeating capture among threads. A start changes the slot of
the channel first and the record later, a stop the other way round, and other calls may come
in between. So two calls may take turns at the slot in one order and at the record in the
other, and then the record is wrong until the next start or stop. What remains is that a
running capture is never without a record. -/

namespace CallProgress

/-- The id that a call was given and did not use up. -/
def id? : CallProgress → Option SequenceId
  | .numbered id _ => some id
  | .submitted id => some id
  | _ => none

/-- A call changed one of the slot and the record, and did not come to the other. -/
def isHalfway : CallProgress → Bool
  | .submitted _ => true
  | .taken => true
  | _ => false

end CallProgress

namespace SequencerThreads

/-! ## Turns -/

inductive Turn
  | number (call : Nat) (id : SequenceId)
  /-- A start puts its request into the slot, or a stop empties it. -/
  | slot (call : Nat) (id : Option SequenceId)
  /-- A start records its id, or a stop forgets what was recorded. -/
  | record (call : Nat) (id : Option SequenceId)
deriving DecidableEq, Repr

def Turn.slot? : Turn → Option (Nat × Option SequenceId)
  | .slot call id => some (call, id)
  | _ => none

def Turn.record? : Turn → Option (Nat × Option SequenceId)
  | .record call id => some (call, id)
  | _ => none

def turn? (threads : SequencerThreads) : ThreadAction → Option Turn
  | .advance call =>
      match threads.calls[call]? with
      | some (.starting _) => threads.sequencer.takeId.1.toOption.map (.number call)
      | some (.numbered id _) =>
          if threads.channel.rejecting then none else some (.slot call (some id))
      | some (.submitted id) => some (.record call (some id))
      | some .stopping =>
          if threads.sequencer.repeating.isSome then some (.record call none) else none
      | some .taken => some (.slot call none)
      | _ => none
  | _ => none

def turns (context : CaptureContext) : SequencerThreads → List ThreadAction → List Turn
  | _, [] => []
  | threads, action :: rest =>
      (threads.turn? action).toList ++
        match act context threads action with
        | some after => turns context after rest
        | none => []

/-- The last call that changed the slot, and the id of the request that it put there. -/
def lastSlot (log : List Turn) : Option (Nat × Option SequenceId) :=
  (log.filterMap Turn.slot?).getLast?

def lastRecord (log : List Turn) : Option (Nat × Option SequenceId) :=
  (log.filterMap Turn.record?).getLast?

/-- The record is the id of the request in the slot, and there is none if the slot is empty. -/
def Agrees (threads : SequencerThreads) : Prop :=
  (∀ id, threads.sequencer.repeating = some id ↔
    ∃ flight, threads.channel.repeating = some flight ∧ flight.client.sequence = id) ∧
  (threads.sequencer.repeating = none ↔ threads.channel.repeating = none)

private theorem agrees_iff {threads : SequencerThreads} :
    threads.Agrees ↔
      threads.sequencer.repeating = threads.channel.repeating.map (·.client.sequence) := by
  constructor
  · rintro ⟨same, vacant⟩
    cases recorded : threads.sequencer.repeating with
    | none => rw [vacant.mp recorded]; rfl
    | some id =>
        obtain ⟨flight, running, sequence⟩ := (same id).mp recorded
        rw [running, Option.map_some, sequence]
  · intro same
    refine ⟨fun id => ?_, ?_⟩
    · rw [same, Option.map_eq_some_iff]
    · rw [same, Option.map_eq_none_iff]

/-! ## Moves -/

inductive Move (threads : SequencerThreads) : Option Turn → SequencerThreads → Prop
  | enter (progress : CallProgress) (unheld : progress.id? = none) :
      threads.Move none { threads with calls := threads.calls ++ [progress] }
  /-- A call returns that changes nothing any more. -/
  | leave {call : Nat} {before : CallProgress} (found : threads.calls[call]? = some before)
      (whole : before.isHalfway = false) :
      threads.Move none (threads.reach call .returned)
  | number {call : Nat} {receiver : Receiver}
      (found : threads.calls[call]? = some (.starting receiver))
      (room : threads.sequencer.next ≤ SequenceId.limit) :
      threads.Move (some (.number call threads.sequencer.nextId))
        ({ threads with sequencer := threads.sequencer.advanced }.reach call
          (.numbered threads.sequencer.nextId receiver))
  | submit {call : Nat} {id : SequenceId} {receiver : Receiver} {flight : Flight Subscription}
      (found : threads.calls[call]? = some (.numbered id receiver))
      (client : flight.client.sequence = id) :
      threads.Move (some (.slot call (some id)))
        ({ threads with channel := threads.channel.renewed flight }.reach call (.submitted id))
  | record {call : Nat} {id : SequenceId}
      (found : threads.calls[call]? = some (.submitted id)) :
      threads.Move (some (.record call (some id)))
        ({ threads with sequencer := threads.sequencer.record id }.reach call .returned)
  | take {call : Nat} (found : threads.calls[call]? = some .stopping) :
      threads.Move (some (.record call none))
        ({ threads with sequencer := threads.sequencer.cleared }.reach call .taken)
  | stop {call : Nat} (found : threads.calls[call]? = some .taken) :
      threads.Move (some (.slot call none))
        ({ threads with channel := threads.channel.stopped }.reach call .returned)

variable {context : CaptureContext} {threads after : SequencerThreads}

private theorem move_of_advance {call : Nat} (acted : threads.advance context call = some after) :
    threads.Move (threads.turn? (.advance call)) after := by
  unfold advance at acted
  unfold turn?
  split at acted
  next receiver found =>
    rcases Nat.lt_or_ge SequenceId.limit threads.sequencer.next with exhausted | room
    · simp only [Sequencer.takeId_eq_of_exhausted exhausted, Option.some.injEq] at acted
      simp only [found, Sequencer.takeId_eq_of_exhausted exhausted]
      exact acted ▸ .leave found rfl
    · simp only [Sequencer.takeId_eq room, Option.some.injEq] at acted
      simp only [found, Sequencer.takeId_eq room]
      exact acted ▸ .number found room
  next id receiver found =>
    cases rejecting : threads.channel.rejecting with
    | true =>
        simp only [ReplayChannel.setRepeating_eq_of_rejecting rejecting, Option.some.injEq] at acted
        simp only [found, if_true]
        exact acted ▸ .leave found rfl
    | false =>
        simp only [ReplayChannel.setRepeating_eq context.hear_tellsEnds rejecting,
          Option.some.injEq] at acted
        simp only [found, Bool.false_eq_true, if_false]
        exact acted ▸ .submit found rfl
  next id found =>
    simp only [found]
    exact Option.some.inj acted ▸ .record found
  next found =>
    cases recorded : threads.sequencer.repeating with
    | none =>
        obtain ⟨⟨next, repeating⟩, channel, calls⟩ := threads
        obtain rfl : repeating = none := recorded
        simp only [found, Option.isSome_none, Bool.false_eq_true, if_false]
        exact Option.some.inj acted ▸ .leave found rfl
    | some id =>
        simp only [Sequencer.takeRecorded, recorded, Option.some.injEq] at acted
        simp only [found, Option.isSome_some, if_true]
        exact acted ▸ .take found
  next found =>
    simp only [ReplayChannel.stopRepeating_eq context.hear_tellsEnds, Option.some.injEq] at acted
    simp only [found]
    exact acted ▸ .stop found
  next => cases acted
  next => cases acted

private theorem move_of_act {action : ThreadAction}
    (acted : act context threads action = some after) :
    threads.Move (threads.turn? action) after := by
  cases action with
  | start receiver => exact Option.some.inj acted ▸ .enter _ rfl
  | stop => exact Option.some.inj acted ▸ .enter _ rfl
  | advance call => exact move_of_advance acted

/-! ## Where the calls are -/

private theorem getElem?_reach_self {call : Nat} {before : CallProgress}
    (here : threads.calls[call]? = some before) (progress : CallProgress) :
    (threads.reach call progress).calls[call]? = some progress := by
  have inside := (List.getElem?_eq_some_iff.mp here).1
  simp [reach, inside]

private theorem getElem?_reach_of_ne {call other : Nat} (apart : call ≠ other)
    (progress : CallProgress) :
    (threads.reach call progress).calls[other]? = threads.calls[other]? := by
  simp [reach, apart]

/-! ## Captures without a record -/

/-- A capture that runs without a record is about to be recorded, or a
call is about to stop it. -/
def Covered (threads : SequencerThreads) : Prop :=
  threads.channel.repeating.isSome → threads.sequencer.repeating.isSome ∨
    ∃ (call : Nat) (progress : CallProgress),
      threads.calls[call]? = some progress ∧ progress.isHalfway = true

private theorem Covered.reach (covered : threads.Covered) {call : Nat} {before : CallProgress}
    (here : threads.calls[call]? = some before) (whole : before.isHalfway = false)
    (progress : CallProgress) : (threads.reach call progress).Covered := by
  intro running
  rcases covered running with recorded | ⟨other, found, there, halfway⟩
  · exact .inl recorded
  · have apart : call ≠ other := by
      rintro rfl
      cases here.symm.trans there
      rw [whole] at halfway
      cases halfway
    exact .inr ⟨other, found, (getElem?_reach_of_ne apart progress).trans there, halfway⟩

private theorem Covered.move (covered : threads.Covered) {turn : Option Turn}
    (move : threads.Move turn after) : after.Covered := by
  cases move with
  | enter progress unheld =>
      intro running
      rcases covered running with recorded | ⟨other, found, there, halfway⟩
      · exact .inl recorded
      · have inside := (List.getElem?_eq_some_iff.mp there).1
        exact .inr ⟨other, found, (List.getElem?_append_left inside).trans there, halfway⟩
  | leave found whole => exact covered.reach found whole .returned
  | number found room =>
      exact @Covered.reach { threads with sequencer := threads.sequencer.advanced } covered _ _
        found rfl _
  | submit found client =>
      exact fun _ => .inr ⟨_, _, getElem?_reach_self found _, rfl⟩
  | record found => exact fun _ => .inl rfl
  | take found => exact fun _ => .inr ⟨_, _, getElem?_reach_self found _, rfl⟩
  | stop found => exact fun running => by cases running

/-! ## Ids and the calls that took them -/

def Turn.put? : Turn → Option (Nat × SequenceId)
  | .slot call (some id) => some (call, id)
  | .record call (some id) => some (call, id)
  | _ => none

/-- Every id belongs to the one call that took it. -/
structure Owned (log : List Turn) (threads : SequencerThreads) : Prop where
  held : ∀ call progress id, threads.calls[call]? = some progress → progress.id? = some id →
    .number call id ∈ log
  put : ∀ turn ∈ log, ∀ call id, turn.put? = some (call, id) → .number call id ∈ log
  issued : ∀ call id, .number call id ∈ log → id.number.toNat < threads.sequencer.next
  single : ∀ first second id, .number first id ∈ log → .number second id ∈ log → first = second

variable {log : List Turn}

private theorem Owned.reach (owned : Owned log threads) (call : Nat) (progress : CallProgress)
    (own : ∀ id, progress.id? = some id → .number call id ∈ log) :
    Owned log (threads.reach call progress) := by
  refine { owned with held := ?_ }
  intro other found id here holding
  rcases Nat.decEq call other with apart | same
  · exact owned.held other found id ((getElem?_reach_of_ne apart progress).symm.trans here) holding
  · subst same
    have inside : call < threads.calls.length := by
      simpa [SequencerThreads.reach] using (List.getElem?_eq_some_iff.mp here).1
    rw [SequencerThreads.reach, List.getElem?_set_self inside] at here
    cases here
    exact own id holding

private theorem Owned.concat (owned : Owned log threads) {turn : Turn}
    (numberless : ∀ call id, turn ≠ .number call id)
    (own : ∀ call id, turn.put? = some (call, id) → .number call id ∈ log)
    (calls : after.calls = threads.calls)
    (next : after.sequencer.next = threads.sequencer.next) : Owned (log ++ [turn]) after := by
  have earlier {call : Nat} {id : SequenceId} (member : .number call id ∈ log ++ [turn]) :
      .number call id ∈ log := by
    rcases List.mem_append.mp member with member | member
    · exact member
    · exact absurd (List.mem_singleton.mp member).symm (numberless call id)
  constructor
  · intro call progress id here holding
    exact List.mem_append_left _ (owned.held call progress id (calls ▸ here) holding)
  · intro other member call id putting
    rcases List.mem_append.mp member with member | member
    · exact List.mem_append_left _ (owned.put other member call id putting)
    · rw [List.mem_singleton.mp member] at putting
      exact List.mem_append_left _ (own call id putting)
  · exact fun call id member => next ▸ owned.issued call id (earlier member)
  · exact fun first second id member other => owned.single first second id (earlier member)
      (earlier other)

private theorem Owned.number (owned : Owned log threads)
    (room : threads.sequencer.next ≤ SequenceId.limit) (call : Nat) :
    Owned (log ++ [.number call threads.sequencer.nextId])
      { threads with sequencer := threads.sequencer.advanced } := by
  have fresh (other : Nat) : .number other threads.sequencer.nextId ∉ log := by
    intro member
    have below := owned.issued other _ member
    rw [Sequencer.toNat_nextId room] at below
    exact Nat.lt_irrefl _ below
  have cases_mem {other : Nat} {id : SequenceId}
      (member : .number other id ∈ log ++ [.number call threads.sequencer.nextId]) :
      .number other id ∈ log ∨ other = call ∧ id = threads.sequencer.nextId := by
    simpa using member
  constructor
  · intro other progress id here holding
    exact List.mem_append_left _ (owned.held other progress id here holding)
  · intro turn member other id putting
    rcases List.mem_append.mp member with member | member
    · exact List.mem_append_left _ (owned.put turn member other id putting)
    · rw [List.mem_singleton.mp member] at putting
      cases putting
  · intro other id member
    rcases cases_mem member with member | ⟨-, rfl⟩
    · exact Nat.lt_succ_of_lt (owned.issued other id member)
    · rw [Sequencer.toNat_nextId room]
      exact Nat.lt_succ_self _
  · intro first second id firstMember secondMember
    rcases cases_mem firstMember with member | ⟨rfl, rfl⟩
    · rcases cases_mem secondMember with other | ⟨-, rfl⟩
      · exact owned.single first second id member other
      · exact absurd member (fresh first)
    · rcases cases_mem secondMember with other | ⟨rfl, -⟩
      · exact absurd other (fresh second)
      · rfl

private theorem Owned.move (owned : Owned log threads) {turn : Option Turn}
    (move : threads.Move turn after) : Owned (log ++ turn.toList) after := by
  cases move with
  | enter progress unheld =>
      rw [Option.toList_none, List.append_nil]
      refine { owned with held := ?_ }
      intro call found id here holding
      rcases Nat.lt_or_ge call threads.calls.length with earlier | last
      · rw [List.getElem?_append_left earlier] at here
        exact owned.held call found id here holding
      · rw [List.getElem?_append_right last] at here
        have entered := List.mem_singleton.mp (List.mem_of_getElem? here)
        rw [entered, unheld] at holding
        cases holding
  | leave found whole =>
      rw [Option.toList_none, List.append_nil]
      exact owned.reach _ _ nofun
  | @number call receiver found room =>
      refine (owned.number room call).reach call _ ?_
      rintro id ⟨⟩
      exact List.mem_append_right _ (List.mem_singleton_self _)
  | @submit call id receiver flight found client =>
      have own : .number call id ∈ log := owned.held call _ id found rfl
      have put : Owned (log ++ [.slot call (some id)])
          { threads with channel := threads.channel.renewed flight } :=
        owned.concat (by simp) (by rintro _ _ ⟨⟩; exact own) rfl rfl
      refine put.reach call _ ?_
      rintro _ ⟨⟩
      exact List.mem_append_left _ own
  | @record call id found =>
      have own : .number call id ∈ log := owned.held call _ id found rfl
      have put : Owned (log ++ [.record call (some id)])
          { threads with sequencer := threads.sequencer.record id } :=
        owned.concat (by simp) (by rintro _ _ ⟨⟩; exact own) rfl rfl
      exact put.reach call _ nofun
  | @take call found =>
      have put : Owned (log ++ [.record call none])
          { threads with sequencer := threads.sequencer.cleared } :=
        owned.concat (by simp) nofun rfl rfl
      exact put.reach call _ nofun
  | @stop call found =>
      have put : Owned (log ++ [.slot call none])
          { threads with channel := threads.channel.stopped } :=
        owned.concat (by simp) nofun rfl rfl
      exact put.reach call _ nofun

/-! ## What is in the slot and in the record -/

/-- The slot and the record hold what was put there last. -/
structure Written (log : List Turn) (threads : SequencerThreads) : Prop where
  slot : threads.channel.repeating.map (·.client.sequence) = (lastSlot log).bind (·.2)
  record : threads.sequencer.repeating = (lastRecord log).bind (·.2)

private theorem lastSlot_append (log : List Turn) (turn : Option Turn) :
    lastSlot (log ++ turn.toList) = (turn.bind Turn.slot?).or (lastSlot log) := by
  cases turn with
  | none => simp [lastSlot]
  | some turn => cases turn <;> simp [lastSlot, Turn.slot?]

private theorem lastRecord_append (log : List Turn) (turn : Option Turn) :
    lastRecord (log ++ turn.toList) = (turn.bind Turn.record?).or (lastRecord log) := by
  cases turn with
  | none => simp [lastRecord]
  | some turn => cases turn <;> simp [lastRecord, Turn.record?]

private theorem Written.move (written : Written log threads) {turn : Option Turn}
    (move : threads.Move turn after) : Written (log ++ turn.toList) after := by
  constructor
  · rw [lastSlot_append]
    cases move with
    | submit found client => exact congrArg some client
    | stop found => rfl
    | _ => exact written.slot
  · rw [lastRecord_append]
    cases move with
    | record found => rfl
    | take found => rfl
    | _ => exact written.record

/-! ## Runs -/

structure Kept (log : List Turn) (threads : SequencerThreads) : Prop where
  covered : threads.Covered
  owned : Owned log threads
  written : Written log threads

private theorem kept_run (kept : Kept log threads) {actions : List ThreadAction}
    (ran : run context threads actions = some after) :
    Kept (log ++ turns context threads actions) after := by
  induction actions generalizing threads log with
  | nil =>
      rw [turns, List.append_nil]
      exact Option.some.inj ran ▸ kept
  | cons action rest induction =>
      obtain ⟨next, acted, later⟩ := Option.bind_eq_some_iff.mp ran
      have move := move_of_act acted
      have keptNext : Kept (log ++ (threads.turn? action).toList) next :=
        ⟨kept.covered.move move, kept.owned.move move, kept.written.move move⟩
      simp only [turns, acted, ← List.append_assoc]
      exact induction keptNext later

private theorem kept_start : Kept [] {} := ⟨nofun, ⟨nofun, nofun, nofun, nofun⟩, ⟨rfl, rfl⟩⟩

private theorem whole_of_isQuiet (quiet : threads.isQuiet = true) {call : Nat}
    {progress : CallProgress}
    (here : threads.calls[call]? = some progress) : progress.isHalfway = false := by
  have returned := List.all_eq_true.mp quiet progress (List.mem_of_getElem? here)
  rw [of_decide_eq_true returned]
  rfl

private theorem Owned.call_eq (owned : Owned log threads) {first second : Nat} {id : SequenceId}
    (submitted : lastSlot log = some (first, some id))
    (recorded : lastRecord log = some (second, some id)) : first = second := by
  obtain ⟨turn, member, putting⟩ := List.mem_filterMap.mp (List.mem_of_getLast? submitted)
  obtain ⟨other, otherMember, otherPutting⟩ := List.mem_filterMap.mp (List.mem_of_getLast? recorded)
  refine owned.single first second id (owned.put turn member first id ?_)
    (owned.put other otherMember second id ?_)
  · cases turn <;> cases putting
    rfl
  · cases other <;> cases otherPutting
    rfl

/-- The record is right just if the call that changed the slot last is also the one
that changed the record last, or if neither holds anything. Between calls, no capture
runs without a record. -/
theorem run_agrees_iff {actions : List ThreadAction} (ran : run context {} actions = some after) :
    let log := turns context {} actions
    (after.Agrees ↔ lastSlot log = lastRecord log ∨
      (lastSlot log).bind (·.2) = none ∧ (lastRecord log).bind (·.2) = none) ∧
    (after.isQuiet = true → after.sequencer.repeating = none →
      after.channel.repeating = none) := by
  have kept : Kept (turns context {} actions) after := kept_run kept_start ran
  refine ⟨?_, ?_⟩
  · rw [agrees_iff, kept.written.slot, kept.written.record]
    constructor
    · intro same
      cases submitted : (lastSlot (turns context {} actions)).bind (·.2) with
      | none => exact .inr ⟨rfl, same.trans submitted⟩
      | some id =>
          obtain ⟨⟨first, _⟩, slot, rfl⟩ := Option.bind_eq_some_iff.mp submitted
          obtain ⟨⟨second, _⟩, record, rfl⟩ := Option.bind_eq_some_iff.mp (same.trans submitted)
          have one := kept.owned.call_eq slot record
          exact .inl (by rw [slot, record, one])
    · rintro (same | ⟨slot, record⟩)
      · rw [same]
      · rw [slot, record]
  · intro quiet unrecorded
    cases running : after.channel.repeating with
    | none => rfl
    | some flight =>
        rcases kept.covered (by rw [running]; rfl) with recorded | ⟨call, progress, here, halfway⟩
        · rw [unrecorded] at recorded
          cases recorded
        · rw [whole_of_isQuiet quiet here] at halfway
          cases halfway

def inStep : List ThreadAction :=
  [.start "a", .start "b", .advance 0, .advance 0, .advance 1, .advance 1, .advance 0, .advance 1]

theorem run_agrees_iff_inStep :
    let context : CaptureContext := { capabilities := .eyesFree (.ofExtent 4000 3000) }
    ∃ threads, run context {} inStep = some threads ∧ threads.isQuiet = true ∧
      threads.sequencer.repeating = some ⟨2⟩ ∧ threads.Agrees := by
  intro context
  obtain ⟨threads, ran⟩ : ∃ threads, run context {} inStep = some threads :=
    Option.isSome_iff_exists.mp (by decide +kernel)
  have same : lastSlot (turns context {} inStep) = lastRecord (turns context {} inStep) := by
    decide +kernel
  have quiet : (run context {} inStep).map isQuiet = some true := by decide +kernel
  have record : (run context {} inStep).map (·.sequencer.repeating) = some (some ⟨2⟩) := by
    decide +kernel
  rw [ran] at quiet record
  exact ⟨threads, ran, Option.some.inj quiet, Option.some.inj record,
    (run_agrees_iff ran).1.mpr (.inl same)⟩

def overtaken : List ThreadAction :=
  [.start "a", .start "b", .advance 0, .advance 0, .advance 1, .advance 1, .advance 1, .advance 0]

/-- All calls returned, the second request runs and the id of the first one is recorded. -/
theorem overtaken_not_agrees :
    let context : CaptureContext := { capabilities := .eyesFree (.ofExtent 4000 3000) }
    ∃ threads, run context {} overtaken = some threads ∧ threads.isQuiet = true ∧
      threads.sequencer.repeating = some ⟨1⟩ ∧
      threads.channel.repeating.map (·.client.sequence) = some ⟨2⟩ ∧ ¬threads.Agrees := by
  intro context
  obtain ⟨threads, ran⟩ : ∃ threads, run context {} overtaken = some threads :=
    Option.isSome_iff_exists.mp (by decide +kernel)
  have quiet : (run context {} overtaken).map isQuiet = some true := by decide +kernel
  have record : (run context {} overtaken).map (·.sequencer.repeating) = some (some ⟨1⟩) := by
    decide +kernel
  have slot : (run context {} overtaken).map (·.channel.repeating.map (·.client.sequence)) =
      some (some ⟨2⟩) := by decide +kernel
  rw [ran] at quiet record slot
  have recorded : threads.sequencer.repeating = some ⟨1⟩ := Option.some.inj record
  have running : threads.channel.repeating.map (·.client.sequence) = some ⟨2⟩ :=
    Option.some.inj slot
  refine ⟨threads, ran, Option.some.inj quiet, recorded, running, ?_⟩
  rw [agrees_iff, recorded, running]
  decide

end SequencerThreads

end EyesFree
