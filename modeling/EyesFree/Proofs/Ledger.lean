import EyesFree.Proofs.Interruption
import EyesFree.Proofs.Run
import Mathlib.Data.List.Nodup

namespace EyesFree

/-! The starts of a run, and what they tell about the captures at its end: every request in
the channel belongs to one start, ids are never given out twice, and there is nothing in the
channel unless a sequencer is bound. -/

/-- A session that was just created, and a channel that was not used yet. -/
def World.fresh (capabilities : Capabilities) (config : SessionConfig) (surfaces : Surfaces) :
    ReplayWorld :=
  ⟨.new capabilities config, {}, surfaces⟩

/-- The eyes-free extension of an ordinary camera, before anything is done with it. -/
def World.ordinary : ReplayWorld :=
  .fresh (.eyesFree (.ofExtent 4000 3000)) ⟨4, "relay"⟩ {}

def acceptedStarts : ReplayWorld → List SessionStep → List Start
  | _, [] => []
  | world, step :: rest =>
      let performed := step.perform world
      (step.start? world.session.context performed.outcome).toList ++
        acceptedStarts performed.state rest

private theorem acceptedStarts_eq (world : ReplayWorld) (steps : List SessionStep) :
    acceptedStarts world steps = notedBy SessionStep.perform
      (fun world step => (step.start? world.session.context (step.perform world).outcome).toList)
      world steps := by
  induction steps generalizing world with
  | nil => rfl
  | cons step rest induction => simp only [acceptedStarts, notedBy, induction]

theorem acceptedStarts_append (world : ReplayWorld) (first second : List SessionStep) :
    acceptedStarts world (first ++ second) = acceptedStarts world first ++
      acceptedStarts (stateAfter SessionStep.perform world first) second := by
  simp only [acceptedStarts_eq, notedBy_append]

theorem acceptedStarts_concat (world : ReplayWorld) (steps : List SessionStep)
    (step : SessionStep) :
    let last := stateAfter SessionStep.perform world steps
    acceptedStarts world (steps ++ [step]) =
      acceptedStarts world steps ++
        (step.start? last.session.context (step.perform last).outcome).toList := by
  rw [acceptedStarts_eq, acceptedStarts_eq]
  exact notedBy_concat _ _ world steps step

theorem acceptedStarts_eq_of_getElem? {steps : List SessionStep} {place : Nat}
    {step : SessionStep} (found : steps[place]? = some step) (world : ReplayWorld) :
    let before := stateAfter SessionStep.perform world (steps.take place)
    ∃ later, acceptedStarts world steps = acceptedStarts world (steps.take place) ++
      (step.start? before.session.context (step.perform before).outcome).toList ++ later := by
  rw [acceptedStarts_eq, acceptedStarts_eq]
  exact notedBy_eq_of_getElem? _ _ found world

namespace SessionStep

variable {step : SessionStep} {context : CaptureContext}

theorem start?_of_unstarted {outcome : Except Fault Reply}
    (unstarted : ∀ id, outcome ≠ .ok (.started id)) : step.start? context outcome = none := by
  unfold start?
  split
  next id _ => exact absurd rfl (unstarted id)
  next => rfl

theorem start?_of_started {kind : RequestKind} {snapshot : Snapshot} {receiver : Receiver}
    (asked : step.capture? context = some (kind, snapshot, receiver)) (id : SequenceId) :
    step.start? context (.ok (.started id)) = some ⟨⟨id, kind, receiver⟩, snapshot⟩ := by
  simp [start?, asked]

end SessionStep

theorem CaptureMove.exists_start {captures after : Captures} {step : SessionStep}
    {emitted : List Delivery} {id : SequenceId}
    (move : CaptureMove captures step emitted (.ok (.started id)) after) :
    ∃ start, step.start? captures.context (.ok (.started id)) = some start ∧
      start.sequence = id := by
  cases move with
  | renew active bound room asked => exact ⟨_, SessionStep.start?_of_started asked _, rfl⟩
  | submit active bound room asked => exact ⟨_, SessionStep.start?_of_started asked _, rfl⟩
  | stay unstarted => exact absurd rfl (unstarted id)

theorem Sequencer.issued_append (sequencer : Sequencer) (room : sequencer.next ≤ SequenceId.limit)
    {starts : List Start} (distinct : (starts.map Start.sequence).Nodup)
    (issued : ∀ start ∈ starts, start.sequence.number.toNat < sequencer.next) {start : Start}
    (numbered : start.sequence = sequencer.nextId) :
    ((starts ++ [start]).map Start.sequence).Nodup ∧
      ∀ other ∈ starts ++ [start], other.sequence.number.toNat < sequencer.next + 1 := by
  constructor
  · rw [List.map_append, List.map_singleton, List.nodup_append]
    refine ⟨distinct, List.nodup_singleton _, ?_⟩
    intro sequence member last lastMember
    obtain ⟨other, otherMember, rfl⟩ := List.mem_map.mp member
    rw [List.mem_singleton.mp lastMember, numbered]
    intro same
    have below := issued other otherMember
    rw [same, toNat_nextId room] at below
    exact Nat.lt_irrefl _ below
  · intro other member
    rcases List.mem_append.mp member with member | member
    · exact Nat.lt_succ_of_lt (issued other member)
    · rw [List.mem_singleton.mp member, numbered, toNat_nextId room]
      exact Nat.lt_succ_self _

def Flight.IsOf (flight : Flight Subscription) (start : Start) : Prop :=
  flight.client = start.subscription ∧ flight.request = start.request

/-- What the starts of a run tell about the captures after it. -/
structure Ledger (capabilities : Capabilities) (starts : List Start) (captures : Captures) :
    Prop where
  published : captures.context.capabilities = capabilities
  lively : captures.state = .active → captures.sequencer.isSome
  early : captures.state = .uninitialized ∨ captures.state = .configuring →
    captures.sequencer = none ∧ captures.context.ended = false ∧ starts = []
  opened : captures.sequencer.isSome → captures.context.ended = false
  signaled : starts ≠ [] → captures.state ≠ .active → captures.context.ended = true
  idle : captures.sequencer = none →
    captures.channel.repeating = none ∧ captures.channel.pending = []
  issued : ∀ sequencer, captures.sequencer = some sequencer →
    ∀ start ∈ starts, start.sequence.number.toNat < sequencer.next
  distinct : (starts.map Start.sequence).Nodup
  submitted : captures.channel.submitted = starts.map Start.request
  slot : ∀ flight, captures.channel.repeating = some flight →
    ∃ start ∈ starts, flight.IsOf start ∧ start.kind = .repeating
  queue : ∀ flight ∈ captures.channel.pending,
    ∃ start ∈ starts, flight.IsOf start ∧ start.kind ≠ .repeating
  apart : (captures.channel.pending.map (·.client.sequence)).Nodup

namespace Ledger

variable {capabilities : Capabilities} {starts : List Start} {captures : Captures}

private theorem fresh (capabilities : Capabilities) (config : SessionConfig)
    (surfaces : Surfaces) :
    Ledger capabilities [] (World.fresh capabilities config surfaces).captures where
  published := rfl
  lively := by simp [World.fresh, World.captures, Session.new]
  early := by simp [World.fresh, World.captures, Session.new]
  opened := by simp [World.fresh, World.captures, Session.new]
  signaled := by simp
  idle := by simp [World.fresh, World.captures]
  issued := by simp
  distinct := List.nodup_nil
  submitted := rfl
  slot := by simp [World.fresh, World.captures]
  queue := by simp [World.fresh, World.captures]
  apart := List.nodup_nil

/-- A sequence id belongs to one start. -/
theorem eq_of_sequence_eq (ledger : Ledger capabilities starts captures) {left right : Start}
    (leftMember : left ∈ starts) (rightMember : right ∈ starts)
    (same : left.sequence = right.sequence) : left = right :=
  List.inj_on_of_nodup_map ledger.distinct leftMember rightMember same

theorem nextId_ne (ledger : Ledger capabilities starts captures) {sequencer : Sequencer}
    (bound : captures.sequencer = some sequencer) (room : sequencer.next ≤ SequenceId.limit)
    {start : Start} (member : start ∈ starts) : start.sequence ≠ sequencer.nextId := by
  intro same
  have below := ledger.issued sequencer bound start member
  rw [same, Sequencer.toNat_nextId room] at below
  exact Nat.lt_irrefl _ below

private theorem started (ledger : Ledger capabilities starts captures) {sequencer : Sequencer}
    (bound : captures.sequencer = some sequencer) (room : sequencer.next ≤ SequenceId.limit)
    (start : Start) (numbered : start.sequence = sequencer.nextId) :
    ((starts ++ [start]).map Start.sequence).Nodup ∧
      ∀ other ∈ starts ++ [start], other.sequence.number.toNat < sequencer.next + 1 :=
  sequencer.issued_append room ledger.distinct (ledger.issued sequencer bound) numbered

private theorem issued_advanced (ledger : Ledger capabilities starts captures)
    {sequencer : Sequencer} (bound : captures.sequencer = some sequencer) :
    ∀ start ∈ starts, start.sequence.number.toNat < sequencer.advanced.next := fun start member =>
  Nat.lt_succ_of_lt (ledger.issued sequencer bound start member)

theorem exists_isOf_append {flight : Flight Subscription} {right : Start → Prop}
    (more : List Start) (known : ∃ start ∈ starts, flight.IsOf start ∧ right start) :
    ∃ start ∈ starts ++ more, flight.IsOf start ∧ right start := by
  obtain ⟨start, member, rest⟩ := known
  exact ⟨start, List.mem_append_left _ member, rest⟩

private theorem of_active {sequencer : Sequencer}
    (published : captures.context.capabilities = capabilities)
    (active : captures.state = .active) (bound : captures.sequencer = some sequencer)
    (unended : captures.context.ended = false)
    (issued : ∀ start ∈ starts, start.sequence.number.toNat < sequencer.next)
    (distinct : (starts.map Start.sequence).Nodup)
    (submitted : captures.channel.submitted = starts.map Start.request)
    (slot : ∀ flight, captures.channel.repeating = some flight →
      ∃ start ∈ starts, flight.IsOf start ∧ start.kind = .repeating)
    (queue : ∀ flight ∈ captures.channel.pending,
      ∃ start ∈ starts, flight.IsOf start ∧ start.kind ≠ .repeating)
    (apart : (captures.channel.pending.map (·.client.sequence)).Nodup) :
    Ledger capabilities starts captures where
  published
  distinct
  submitted
  slot
  queue
  apart
  lively := by simp [bound]
  early := by simp [active]
  opened := fun _ => unended
  signaled := fun _ inactive => absurd active inactive
  idle := by simp [bound]
  issued := fun other same => by
    cases bound.symm.trans same
    exact issued

private theorem configure (ledger : Ledger capabilities starts captures)
    (uninitialized : captures.state = .uninitialized) :
    Ledger capabilities starts { captures with state := .configuring } :=
  { ledger with
    lively := by simp
    early := fun _ => ledger.early (.inl uninitialized)
    signaled := fun some => absurd (ledger.early (.inl uninitialized)).2.2 some }

private theorem bind (ledger : Ledger capabilities starts captures)
    (configuring : captures.state = .configuring) :
    Ledger capabilities starts { captures with state := .active, sequencer := some {} } := by
  obtain ⟨_, unended, rfl⟩ := ledger.early (.inr configuring)
  exact of_active ledger.published rfl rfl unended (by simp) ledger.distinct ledger.submitted
    ledger.slot ledger.queue ledger.apart

private theorem refuse (ledger : Ledger capabilities starts captures) {sequencer : Sequencer}
    (active : captures.state = .active) (bound : captures.sequencer = some sequencer) :
    Ledger capabilities starts { captures with sequencer := some sequencer.advanced } :=
  of_active ledger.published active rfl (ledger.opened (by simp [bound]))
    (ledger.issued_advanced bound) ledger.distinct ledger.submitted ledger.slot ledger.queue
    ledger.apart

private theorem renew (ledger : Ledger capabilities starts captures) {sequencer : Sequencer}
    (active : captures.state = .active) (bound : captures.sequencer = some sequencer)
    (room : sequencer.next ≤ SequenceId.limit) (snapshot : Snapshot) (receiver : Receiver) :
    Ledger capabilities
      (starts ++ [⟨⟨sequencer.nextId, .repeating, receiver⟩, snapshot⟩])
      { captures with
        sequencer := some (sequencer.advanced.record sequencer.nextId)
        channel := captures.channel.renewed
          (sequencer.flightOf captures.channel .repeating snapshot receiver) } := by
  let start : Start := ⟨⟨sequencer.nextId, .repeating, receiver⟩, snapshot⟩
  obtain ⟨distinct, issued⟩ := ledger.started bound room start rfl
  refine of_active ledger.published active rfl (ledger.opened (by simp [bound])) issued distinct
    ?submitted ?slot (fun flight member => exists_isOf_append [start] (ledger.queue flight member))
    ledger.apart
  case submitted =>
    rw [List.map_append, ← ledger.submitted]
    rfl
  case slot =>
    intro flight running
    cases running
    exact ⟨start, by simp [start], ⟨rfl, rfl⟩, rfl⟩

/-- What is pending has the id of an earlier start, and the new id is none of those. -/
private theorem apart_concat (ledger : Ledger capabilities starts captures)
    {sequencer : Sequencer} (bound : captures.sequencer = some sequencer)
    (room : sequencer.next ≤ SequenceId.limit) {last : Flight Subscription}
    (numbered : last.client.sequence = sequencer.nextId) :
    ((captures.channel.pending ++ [last]).map (·.client.sequence)).Nodup := by
  rw [List.map_append, List.map_singleton]
  refine List.nodup_append.mpr ⟨ledger.apart, List.nodup_singleton _, ?_⟩
  intro sequence member other otherMember
  obtain ⟨flight, flightMember, rfl⟩ := List.mem_map.mp member
  obtain ⟨start, startMember, ⟨client, _⟩, _⟩ := ledger.queue flight flightMember
  rw [List.mem_singleton.mp otherMember, client, numbered]
  exact ledger.nextId_ne bound room startMember

private theorem submit (ledger : Ledger capabilities starts captures) {sequencer : Sequencer}
    (active : captures.state = .active) (bound : captures.sequencer = some sequencer)
    (room : sequencer.next ≤ SequenceId.limit) {kind : RequestKind} (once : kind ≠ .repeating)
    (snapshot : Snapshot) (receiver : Receiver) :
    Ledger capabilities (starts ++ [⟨⟨sequencer.nextId, kind, receiver⟩, snapshot⟩])
      { captures with
        sequencer := some sequencer.advanced
        channel := captures.channel.enqueued
          (sequencer.flightOf captures.channel kind snapshot receiver) } := by
  let start : Start := ⟨⟨sequencer.nextId, kind, receiver⟩, snapshot⟩
  obtain ⟨distinct, issued⟩ := ledger.started bound room start rfl
  refine of_active ledger.published active rfl (ledger.opened (by simp [bound])) issued distinct
    ?submitted (fun flight running => exists_isOf_append [start] (ledger.slot flight running))
    ?queue (ledger.apart_concat bound room rfl)
  case submitted =>
    rw [List.map_append, ← ledger.submitted]
    rfl
  case queue =>
    intro flight member
    rcases List.mem_append.mp member with member | member
    · exact exists_isOf_append [start] (ledger.queue flight member)
    · rw [List.mem_singleton.mp member]
      exact ⟨start, by simp [start], ⟨rfl, rfl⟩, once⟩

private theorem stop (ledger : Ledger capabilities starts captures) {sequencer : Sequencer}
    (active : captures.state = .active) (bound : captures.sequencer = some sequencer) :
    Ledger capabilities starts
      { captures with
        sequencer := some sequencer.cleared, channel := captures.channel.stopped } :=
  of_active ledger.published active rfl (ledger.opened (by simp [bound]))
    (ledger.issued sequencer bound) ledger.distinct ledger.submitted (by simp) ledger.queue
    ledger.apart

private theorem drain (ledger : Ledger capabilities starts captures) :
    Ledger capabilities starts { captures with channel := captures.channel.drained } :=
  { ledger with
    idle := fun unbound => ⟨(ledger.idle unbound).1, rfl⟩
    queue := by simp
    apart := List.nodup_nil }

private theorem finish (ledger : Ledger capabilities starts captures) {state : SessionState}
    (later : state = .ending ∨ state = .deinitialized) (parameters : Parameters) :
    Ledger capabilities starts (captures.finished state parameters) where
  published := ledger.published
  lively := by rcases later with rfl | rfl <;> simp [Captures.finished]
  early := by rcases later with rfl | rfl <;> simp [Captures.finished]
  opened := by simp [Captures.finished]
  signaled := fun _ _ => rfl
  idle := by simp [Captures.finished]
  issued := by simp [Captures.finished]
  distinct := ledger.distinct
  submitted := ledger.submitted
  slot := by simp [Captures.finished]
  queue := by simp [Captures.finished]
  apart := List.nodup_nil

private theorem release (ledger : Ledger capabilities starts captures)
    (unbound : captures.sequencer = none) :
    Ledger capabilities starts
      { captures with
        state := .deinitialized, context := { captures.context with parameters := .empty } } :=
  have inactive : captures.state ≠ .active := fun active => by
    simpa [unbound] using ledger.lively active
  { ledger with
    lively := by simp
    early := by simp
    signaled := fun some _ => ledger.signaled some inactive }

theorem move (ledger : Ledger capabilities starts captures) {step : SessionStep}
    {emitted : List Delivery} {outcome : Except Fault Reply} {after : Captures}
    (move : CaptureMove captures step emitted outcome after) :
    Ledger capabilities (starts ++ (step.start? captures.context outcome).toList) after := by
  have silent (unstarted : ∀ id, outcome ≠ .ok (.started id))
      (still : Ledger capabilities starts after) :
      Ledger capabilities (starts ++ (step.start? captures.context outcome).toList) after := by
    rwa [SessionStep.start?_of_unstarted unstarted, Option.toList_none, List.append_nil]
  cases move with
  | renew active bound room asked =>
      rw [SessionStep.start?_of_started asked, Option.toList_some]
      exact ledger.renew active bound room _ _
  | submit active bound room asked once =>
      rw [SessionStep.start?_of_started asked, Option.toList_some]
      exact ledger.submit active bound room once _ _
  | stay unstarted => exact silent unstarted ledger
  | configure uninitialized => exact silent (by simp) (ledger.configure uninitialized)
  | bind configuring => exact silent (by simp) (ledger.bind configuring)
  | parametrize parameters => exact silent (by simp) { ledger with }
  | refuse active bound => exact silent (by simp) (ledger.refuse active bound)
  | stop active bound => exact silent (by simp) (ledger.stop active bound)
  | switch rejecting => exact silent (by simp) { ledger with }
  | frame about running => exact silent (by simp) { ledger with }
  | drain about => exact silent (by simp) ledger.drain
  | finish bound state later parameters =>
      exact silent (by simp) (ledger.finish later parameters)
  | release unbound => exact silent (by simp) (ledger.release unbound)

private theorem step (ledger : Ledger capabilities starts captures) {step : SessionStep}
    {emitted : List Delivery} {outcome : Except Fault Reply} {after : Captures}
    (next : CaptureStep captures step emitted outcome after) :
    Ledger capabilities (starts ++ (step.start? captures.context outcome).toList) after := by
  cases next with
  | moved move => exact ledger.move move
  | cut remaining tells =>
      rw [SessionStep.start?_of_unstarted (by simp), Option.toList_none, List.append_nil]
      exact { ledger with
        idle := by
          intro unbound
          obtain ⟨vacant, empty⟩ := ledger.idle unbound
          exact ⟨vacant, List.sublist_nil.mp (empty ▸ remaining)⟩
        queue := fun flight member => ledger.queue flight (remaining.subset member)
        apart := ledger.apart.sublist (remaining.map _) }

/-! ## Runs -/

theorem captureStep {world : ReplayWorld} (ledger : Ledger capabilities starts world.captures)
    (step : SessionStep) :
    let performed := step.perform world
    CaptureStep world.captures step performed.emitted performed.outcome
      performed.state.captures :=
  step.captureStep ledger.lively

section

variable {config : SessionConfig} {surfaces : Surfaces}

theorem reached (steps : List SessionStep) :
    let start := World.fresh capabilities config surfaces
    Ledger capabilities (acceptedStarts start steps)
      (stateAfter SessionStep.perform start steps).captures := by
  refine run_invariant SessionStep.perform
    (motive := fun steps world _ => Ledger capabilities
      (acceptedStarts (World.fresh capabilities config surfaces) steps) world.captures)
    (Ledger.fresh capabilities config surfaces) ?_ steps
  intro steps step world ledger
  rw [acceptedStarts_concat]
  exact ledger.step (ledger.captureStep step)

variable (extent : capabilities.activeArray.HasExtent)
include extent

theorem moves {world : ReplayWorld} (ledger : Ledger capabilities starts world.captures)
    (step : SessionStep) : step.Moves world := by
  have same : world.session.context.capabilities = capabilities := ledger.published
  exact step.captureMove (same ▸ extent) ledger.lively

/-- What holds at first and is kept by every move holds of every run. -/
theorem run_moves {motive : List Start → Captures → List Delivery → Prop}
    (initial : motive [] (World.fresh capabilities config surfaces).captures [])
    (preserved : ∀ starts captures past step emitted outcome after,
      Ledger capabilities starts captures → CaptureMove captures step emitted outcome after →
        motive starts captures past →
          motive (starts ++ (step.start? captures.context outcome).toList) after
            (past ++ emitted))
    (steps : List SessionStep) :
    let start := World.fresh capabilities config surfaces
    Ledger capabilities (acceptedStarts start steps)
        (stateAfter SessionStep.perform start steps).captures ∧
      motive (acceptedStarts start steps)
        (stateAfter SessionStep.perform start steps).captures
        (emittedBy SessionStep.perform start steps) := by
  refine ⟨reached steps, ?_⟩
  refine run_invariant SessionStep.perform
    (motive := fun steps world past => motive
      (acceptedStarts (World.fresh capabilities config surfaces) steps) world.captures past)
    initial ?_ steps
  intro steps step world invariant
  have ledger := @reached capabilities config surfaces steps
  rw [acceptedStarts_concat]
  exact preserved _ _ _ _ _ _ _ ledger (ledger.moves extent step) invariant

theorem run (steps : List SessionStep) :
    let start := World.fresh capabilities config surfaces
    Ledger capabilities (acceptedStarts start steps)
      (stateAfter SessionStep.perform start steps).captures :=
  (run_moves extent (motive := fun _ _ _ => True) trivial
    (fun _ _ _ _ _ _ _ _ _ _ => trivial) steps).1

end

end Ledger

end EyesFree
