import EyesFree.Proofs.FrameLog

namespace EyesFree

/-! How the passage of preview frames is set up and taken down. A session makes one
source for its preview, behind the sources that were there before, and opens one
output, behind the outputs that were there before. It closes both once, and loses no
frame that it has until then. -/

theorem FrameSource.closeCalls_produce (timestamp : Timestamp) (source : FrameSource) :
    (source.produce timestamp).2.closeCalls = source.closeCalls := by
  unfold produce
  dsimp only
  split <;> rfl

namespace Passage

/-! ## Phases -/

structure Vacant (origin outlet : Nat) (log : FrameLog) (passage : Passage) : Prop where
  sourceless : passage.source = none
  detached : passage.relay = none
  uninstalled : passage.slot = {}
  uncounted : passage.finalStats = {}
  sources : passage.sources.length = origin
  outputs : passage.outputs.length = outlet
  unlogged : log = {}

/-- Frames wait in the source until the relay is attached. -/
structure Waiting (origin outlet : Nat) (log : FrameLog) (queue : FrameSource)
    (passage : Passage) : Prop where
  configuring : passage.state = .configuring
  chosen : passage.source = some origin
  asked : passage.target.isSome
  detached : passage.relay = none
  uninstalled : passage.slot = {}
  uncounted : passage.finalStats = {}
  found : passage.sources[origin]? = some queue
  sources : passage.sources.length = origin + 1
  outputs : passage.outputs.length = outlet
  silent : queue.listened = false
  opened : queue.closed = false
  unclosed : queue.closeCalls = 0
  balanced : queue.Balanced log []
  unaccepted : log.accepted = []

/-- The relay takes frames from the source, and the output is open. -/
structure Relaying (origin outlet : Nat) (log : FrameLog) (queue : FrameSource)
    (relay : Relay Frame) (output : Output) (done : List (Frame × Bool)) (passage : Passage) :
    Prop where
  running : passage.state = .active ∨ passage.state = .ending
  chosen : passage.source = some origin
  attached : passage.relay = some relay
  ready : relay.Ready
  installed : passage.slot = ⟨some outlet⟩
  found : passage.sources[origin]? = some queue
  sources : passage.sources.length = origin + 1
  present : passage.outputs[outlet]? = some output
  outputs : passage.outputs.length = outlet + 1
  listened : queue.listened = true
  opened : queue.closed = false
  unclosed : queue.closeCalls = 0
  writable : output.closeCalls = 0
  balanced : queue.Balanced log relay.slot.toList
  settled : log.Settled relay.slot.toList relay.stats output done

/-- Either no output was opened, or it was closed once with every accepted frame done with. -/
inductive Concluded (outlet : Nat) (log : FrameLog) (passage : Passage) : Prop
  | unopened (outputs : passage.outputs.length = outlet) (uncounted : passage.finalStats = {})
      (unaccepted : log.accepted = [])
  | closed {output : Output} {done : List (Frame × Bool)}
      (present : passage.outputs[outlet]? = some output)
      (outputs : passage.outputs.length = outlet + 1) (once : output.closeCalls = 1)
      (settled : log.Settled [] passage.finalStats output done)

/-- The source was closed once, with every frame released. -/
structure Finished (origin outlet : Nat) (log : FrameLog) (queue : FrameSource)
    (passage : Passage) : Prop where
  deinitialized : passage.state = .deinitialized
  sourceless : passage.source = none
  detached : passage.relay = none
  uninstalled : passage.slot = {}
  found : passage.sources[origin]? = some queue
  sources : passage.sources.length = origin + 1
  silent : queue.listened = false
  closed : queue.closed = true
  once : queue.closeCalls = 1
  empty : queue.queue = []
  balanced : queue.Balanced log []
  concluded : passage.Concluded outlet log

inductive Phase (origin outlet : Nat) (log : FrameLog) (passage : Passage) : Prop
  | vacant (vacant : passage.Vacant origin outlet log)
  | waiting {queue : FrameSource} (waiting : passage.Waiting origin outlet log queue)
  | relaying {queue : FrameSource} {relay : Relay Frame} {output : Output}
      {done : List (Frame × Bool)}
      (relaying : passage.Relaying origin outlet log queue relay output done)
  | finished {queue : FrameSource} (finished : passage.Finished origin outlet log queue)

variable {origin outlet : Nat} {log : FrameLog} {queue : FrameSource} {relay : Relay Frame}
  {output : Output} {done : List (Frame × Bool)} {passage : Passage}

/-! ## Phases by state -/

private theorem Relaying.begun
    (relaying : passage.Relaying origin outlet log queue relay output done) :
    passage.state ≠ .uninitialized ∧ passage.state ≠ .configuring := by
  rcases relaying.running with active | ending
  · simp [active]
  · simp [ending]

theorem Relaying.living (relaying : passage.Relaying origin outlet log queue relay output done) :
    passage.state ≠ .deinitialized := by
  rcases relaying.running with active | ending
  · simp [active]
  · simp [ending]

theorem Relaying.underWay_eq
    (relaying : passage.Relaying origin outlet log queue relay output done) :
    passage.underWay = relay.slot.toList := by
  simp [underWay, relaying.attached, relaying.ready.inFlight]

namespace Phase

theorem of_uninitialized (phase : passage.Phase origin outlet log)
    (uninitialized : passage.state = .uninitialized) : passage.Vacant origin outlet log := by
  cases phase with
  | vacant vacant => exact vacant
  | waiting waiting => cases uninitialized.symm.trans waiting.configuring
  | relaying relaying => exact absurd uninitialized relaying.begun.1
  | finished finished => cases uninitialized.symm.trans finished.deinitialized

theorem of_configuring (phase : passage.Phase origin outlet log)
    (configuring : passage.state = .configuring) :
    passage.Vacant origin outlet log ∨ ∃ queue, passage.Waiting origin outlet log queue := by
  cases phase with
  | vacant vacant => exact .inl vacant
  | waiting waiting => exact .inr ⟨_, waiting⟩
  | relaying relaying => exact absurd configuring relaying.begun.2
  | finished finished => cases configuring.symm.trans finished.deinitialized

theorem of_active (phase : passage.Phase origin outlet log) (active : passage.state = .active) :
    passage.Vacant origin outlet log ∨
      ∃ queue relay output done, passage.Relaying origin outlet log queue relay output done := by
  cases phase with
  | vacant vacant => exact .inl vacant
  | waiting waiting => cases active.symm.trans waiting.configuring
  | relaying relaying => exact .inr ⟨_, _, _, _, relaying⟩
  | finished finished => cases active.symm.trans finished.deinitialized

end Phase

/-! ## Setting up -/

theorem Vacant.prepare (vacant : passage.Vacant origin outlet log) (surface : SurfaceId)
    (size : Size) (format : ImageFormat) (maxImages : Nat) (asked : SurfaceId) :
    Waiting origin outlet log (FrameSource.of surface size format maxImages) { passage with
      state := .configuring
      source := some passage.sources.length
      target := some asked
      sources := passage.sources ++ [FrameSource.of surface size format maxImages] } where
  configuring := rfl
  chosen := congrArg some vacant.sources
  asked := rfl
  detached := vacant.detached
  uninstalled := vacant.uninstalled
  uncounted := vacant.uncounted
  found := by rw [← vacant.sources]; exact List.getElem?_concat_length
  sources := by simp [vacant.sources]
  outputs := vacant.outputs
  silent := rfl
  opened := rfl
  unclosed := rfl
  balanced := by
    rw [vacant.unlogged]
    exact ⟨rfl, rfl, List.Sublist.refl _⟩
  unaccepted := by rw [vacant.unlogged]

theorem Waiting.attach (waiting : passage.Waiting origin outlet log queue) (surface : SurfaceId) :
    (passage.attached origin surface).Relaying origin outlet log (queue.setListened true) {}
      { surface } [] where
  running := .inl rfl
  chosen := waiting.chosen
  attached := rfl
  ready := ⟨rfl, rfl, rfl⟩
  installed := by simp [attached, waiting.outputs]
  found := by simp [attached, waiting.found]
  sources := by simp [attached, waiting.sources]
  present := by
    simp only [attached, waiting.uninstalled, OutputSlot.closing, ← waiting.outputs]
    exact List.getElem?_concat_length
  outputs := by simp [attached, waiting.uninstalled, OutputSlot.closing, waiting.outputs]
  listened := rfl
  opened := waiting.opened
  unclosed := waiting.unclosed
  writable := rfl
  balanced := { waiting.balanced with }
  settled := ⟨waiting.unaccepted, rfl, rfl, rfl, fun _ _ none => absurd none List.not_mem_nil⟩

/-! ## Releasing -/

theorem Vacant.release (vacant : passage.Vacant origin outlet log) :
    passage.released.Vacant origin outlet log where
  sourceless := rfl
  detached := rfl
  uninstalled := rfl
  uncounted := by simp [released, vacant.detached, vacant.uncounted]
  sources := by simp [released, vacant.sourceless, vacant.sources]
  outputs := by simp [released, vacant.uninstalled, OutputSlot.closing, vacant.outputs]
  unlogged := vacant.unlogged

theorem Waiting.release (waiting : passage.Waiting origin outlet log queue) :
    passage.released.Finished origin outlet log (queue.setListened false).close := by
  have shut := FrameSource.close_setListened waiting.opened
  exact {
    deinitialized := rfl
    sourceless := rfl
    detached := rfl
    uninstalled := rfl
    found := by simp [released, waiting.chosen, waiting.found]
    sources := by simp [released, waiting.chosen, waiting.sources]
    silent := by rw [shut]
    closed := by rw [shut]
    once := by rw [shut, waiting.unclosed]
    empty := by rw [shut]
    balanced := waiting.balanced.close waiting.opened
    concluded := .unopened
      (by simp [released, waiting.uninstalled, OutputSlot.closing, waiting.outputs])
      (by simp [released, waiting.detached, waiting.uncounted]) waiting.unaccepted }

private theorem Relaying.release
    (relaying : passage.Relaying origin outlet log queue relay output done)
    (idle : relay.slot = none) :
    passage.released.Finished origin outlet log (queue.setListened false).close ∧
      passage.released.finalStats = relay.stats := by
  have shut := FrameSource.close_setListened relaying.opened
  have balanced := relaying.balanced
  have settled := relaying.settled
  have counted : passage.released.finalStats = relay.stats := by
    simp [released, relaying.attached]
  rw [idle] at balanced settled
  have present : passage.released.outputs[outlet]? =
      some { output with closeCalls := output.closeCalls + 1 } := by
    simp [released, relaying.installed, OutputSlot.closing, relaying.present]
  refine ⟨?_, counted⟩
  exact {
    deinitialized := rfl
    sourceless := rfl
    detached := rfl
    uninstalled := rfl
    found := by simp [released, relaying.chosen, relaying.found]
    sources := by simp [released, relaying.chosen, relaying.sources]
    silent := by rw [shut]
    closed := by rw [shut]
    once := by rw [shut, relaying.unclosed]
    empty := by rw [shut]
    balanced := balanced.close relaying.opened
    concluded := .closed present
      (by simp [released, relaying.installed, OutputSlot.closing, relaying.outputs])
      (congrArg (· + 1) relaying.writable)
      (counted ▸ settled.close) }

/-! ## Frames that are produced -/

theorem Waiting.produce (waiting : passage.Waiting origin outlet log queue)
    (timestamp : Timestamp) :
    (passage.replaced origin (queue.produce timestamp).2).Waiting origin outlet
      { log with produced := log.produced ++ [⟨timestamp, queue.size, queue.format⟩] }
      (queue.produce timestamp).2 :=
  { waiting with
    found := by simp [replaced, waiting.found]
    sources := by simp [replaced, waiting.sources]
    silent := (queue.listened_produce timestamp).trans waiting.silent
    opened := (queue.closed_produce timestamp).trans waiting.opened
    unclosed := (queue.closeCalls_produce timestamp).trans waiting.unclosed
    balanced := waiting.balanced.produce timestamp }

theorem Finished.produce (finished : passage.Finished origin outlet log queue)
    (timestamp : Timestamp) :
    (passage.replaced origin (queue.produce timestamp).2).Finished origin outlet
      { log with produced := log.produced ++ [⟨timestamp, queue.size, queue.format⟩] }
      (queue.produce timestamp).2 :=
  { finished with
    found := by simp [replaced, finished.found]
    sources := by simp [replaced, finished.sources]
    silent := (queue.listened_produce timestamp).trans finished.silent
    closed := (queue.closed_produce timestamp).trans finished.closed
    once := (queue.closeCalls_produce timestamp).trans finished.once
    empty := by simp [FrameSource.produce, FrameSource.accepts, FrameSource.release,
      finished.closed, finished.empty]
    balanced := finished.balanced.produce timestamp
    concluded := by
      cases finished.concluded with
      | unopened outputs uncounted unaccepted => exact .unopened outputs uncounted unaccepted
      | closed present outputs once settled => exact .closed present outputs once { settled with } }

private theorem Relaying.overflow
    (relaying : passage.Relaying origin outlet log queue relay output done)
    (timestamp : Timestamp) :
    (passage.replaced origin (queue.produce timestamp).2).Relaying origin outlet
      { log with produced := log.produced ++ [⟨timestamp, queue.size, queue.format⟩] }
      (queue.produce timestamp).2 relay output done :=
  { relaying with
    found := by simp [replaced, relaying.found]
    sources := by simp [replaced, relaying.sources]
    listened := (queue.listened_produce timestamp).trans relaying.listened
    opened := (queue.closed_produce timestamp).trans relaying.opened
    unclosed := (queue.closeCalls_produce timestamp).trans relaying.unclosed
    balanced := relaying.balanced.produce timestamp
    settled := { relaying.settled with } }

private theorem Relaying.drop
    (relaying : passage.Relaying origin outlet log queue relay output done)
    {timestamp : Timestamp} {oldest : Frame} {rest : List Frame}
    (next : queue.queue ++ [⟨timestamp, queue.size, queue.format⟩] = oldest :: rest) :
    Relaying origin outlet
      { log with produced := log.produced ++ [⟨timestamp, queue.size, queue.format⟩] }
      (queue.passed rest true) relay.countDropped output done
      { passage.replaced origin (queue.passed rest true) with
        relay := some relay.countDropped } :=
  { relaying with
    attached := rfl
    ready := ⟨relaying.ready.waiting, relaying.ready.sending, relaying.ready.occupied⟩
    found := by simp [replaced, relaying.found]
    sources := by simp [replaced, relaying.sources]
    balanced := relaying.balanced.drop next
    settled := { relaying.settled with } }

private theorem Relaying.accept
    (relaying : passage.Relaying origin outlet log queue relay output done)
    (idle : relay.slot = none) {timestamp : Timestamp} {oldest : Frame} {rest : List Frame}
    (next : queue.queue ++ [⟨timestamp, queue.size, queue.format⟩] = oldest :: rest) :
    Relaying origin outlet
      ⟨log.produced ++ [⟨timestamp, queue.size, queue.format⟩], log.accepted ++ [oldest]⟩
      (queue.passed rest false) { relay with busy := true, slot := some oldest } output done
      { passage.replaced origin (queue.passed rest false) with
        relay := some { relay with busy := true, slot := some oldest } } := by
  have balanced := relaying.balanced
  have settled := relaying.settled
  rw [idle] at balanced settled
  exact { relaying with
    attached := rfl
    ready := ⟨relaying.ready.waiting, relaying.ready.sending, rfl⟩
    found := by simp [replaced, relaying.found]
    sources := by simp [replaced, relaying.sources]
    balanced := balanced.accept next
    settled := settled.accept oldest }

/-! ## Other sources, and outputs that are given up -/

/-- What becomes of a source that is not the preview's does not matter. -/
theorem Phase.elsewhere (phase : passage.Phase origin outlet log) {source : Nat}
    (other : source ≠ origin) (changed : FrameSource) :
    (passage.replaced source changed).Phase origin outlet log := by
  have same : (passage.replaced source changed).sources[origin]? = passage.sources[origin]? :=
    List.getElem?_modify_ne _ _ other
  have length : (passage.replaced source changed).sources.length = passage.sources.length :=
    List.length_modify ..
  cases phase with
  | vacant vacant => exact .vacant { vacant with sources := length.trans vacant.sources }
  | waiting waiting =>
      exact .waiting { waiting with
        found := same.trans waiting.found
        sources := length.trans waiting.sources }
  | relaying relaying =>
      exact .relaying { relaying with
        found := same.trans relaying.found
        sources := length.trans relaying.sources }
  | finished finished =>
      refine .finished { finished with
        found := same.trans finished.found
        sources := length.trans finished.sources
        concluded := ?_ }
      cases finished.concluded with
      | unopened outputs uncounted unaccepted => exact .unopened outputs uncounted unaccepted
      | closed present outputs once settled => exact .closed present outputs once settled

private theorem exists_abandoned (given : Nat)
    (present : passage.outputs[outlet]? = some output) :
    ∃ changed, (passage.abandoned given).outputs[outlet]? = some changed ∧
      (changed = output ∨ changed = { output with abandoned := true }) := by
  by_cases same : given = outlet
  · subst same
    exact ⟨_, by simp [abandoned, present], .inr rfl⟩
  · exact ⟨output, (List.getElem?_modify_ne _ _ same).trans present, .inl rfl⟩

theorem Phase.abandon (phase : passage.Phase origin outlet log) (given : Nat) :
    (passage.abandoned given).Phase origin outlet log := by
  have length : (passage.abandoned given).outputs.length = passage.outputs.length :=
    List.length_modify ..
  cases phase with
  | vacant vacant => exact .vacant { vacant with outputs := length.trans vacant.outputs }
  | waiting waiting => exact .waiting { waiting with outputs := length.trans waiting.outputs }
  | relaying relaying =>
      obtain ⟨changed, present, rfl | rfl⟩ := exists_abandoned given relaying.present
      · exact .relaying { relaying with present, outputs := length.trans relaying.outputs }
      · exact .relaying { relaying with
          present
          outputs := length.trans relaying.outputs
          settled := relaying.settled.abandon }
  | finished finished =>
      refine .finished { finished with concluded := ?_ }
      cases finished.concluded with
      | unopened outputs uncounted unaccepted =>
          exact .unopened (length.trans outputs) uncounted unaccepted
      | closed present outputs once settled =>
          obtain ⟨changed, still, rfl | rfl⟩ := exists_abandoned given present
          · exact .closed still (length.trans outputs) once settled
          · exact .closed still (length.trans outputs) once settled.abandon

def OnlyAt (origin : Nat) (passage after : Passage) : Prop :=
  ∀ source, source ≠ origin → after.sources[source]? = passage.sources[source]?

theorem OnlyAt.of_eq {passage after : Passage} (same : after.sources = passage.sources) :
    OnlyAt origin passage after := fun _ _ => by rw [same]

theorem OnlyAt.of_modify {passage after : Passage} {change : FrameSource → FrameSource}
    (same : after.sources = passage.sources.modify origin change) :
    OnlyAt origin passage after := fun _ other => by
  rw [same]
  exact List.getElem?_modify_ne _ _ (Ne.symm other)

private theorem OnlyAt.trans {passage between after : Passage}
    (first : OnlyAt origin passage between)
    (second : OnlyAt origin between after) : OnlyAt origin passage after :=
  fun source other => (second source other).trans (first source other)

theorem onlyAt_released (chosen : passage.source = some origin) :
    OnlyAt origin passage passage.released := by
  apply OnlyAt.of_modify
  simp only [released, chosen]
  rfl

end Passage

/-! ## Steps of the worker and of the release -/

namespace World

variable {world : ReplayWorld} {origin outlet : Nat} {log : FrameLog} {queue : FrameSource}
  {relay : Relay Frame} {output : Output} {done : List (Frame × Bool)}

theorem relaying_forwardFrame
    (relaying : world.passage.Relaying origin outlet log queue relay output done) :
    ∃ changed idle offered more,
      world.forwardFrame.passage.Relaying origin outlet log changed idle offered more ∧
        idle.slot = none ∧ relay.stats.Within idle.stats ∧
        world.passage.OnlyAt origin world.forwardFrame.passage := by
  have attached : world.session.relay = some relay := relaying.attached
  have chosen : world.session.source = some origin := relaying.chosen
  have ready := relaying.ready
  cases sent : relay.slot with
  | none =>
      rw [forwardFrame_eq_of_idle attached ready sent]
      exact ⟨queue, relay, output, done, relaying, sent, .refl _, .of_eq rfl⟩
  | some frame =>
      have balanced := relaying.balanced
      have settled := relaying.settled
      rw [sent] at balanced settled
      rw [passage_forwardFrame attached ready chosen sent relaying.installed relaying.present]
      let idle : Relay Frame := { relay with
        busy := false, slot := none, stats := Relay.countOutcome (!output.abandoned) relay.stats }
      refine ⟨queue.release 1, idle, output.offered frame.timestamp,
        done ++ [(frame, !output.abandoned)], ?_, rfl, .countOutcome _ _, .of_modify rfl⟩
      exact { relaying with
        attached := rfl
        ready := ⟨ready.waiting, ready.sending, rfl⟩
        found := by simp [relaying.found]
        sources := by simp [relaying.sources]
        present := by simp [relaying.present]
        outputs := by simp [relaying.outputs]
        writable := output.closeCalls_offered.trans relaying.writable
        balanced := balanced.release
        settled := settled.forward }

/-- A release lets the worker go on first. -/
theorem relaying_released
    (relaying : world.passage.Relaying origin outlet log queue relay output done) :
    ∃ changed, world.released.passage.Finished origin outlet log changed ∧
      relay.stats.Within world.released.passage.finalStats ∧
      world.passage.OnlyAt origin world.released.passage := by
  have ready (other : Relay Frame) (attached : world.session.relay = some other) :
      other.Ready := by
    cases relaying.attached.symm.trans attached
    exact relaying.ready
  obtain ⟨changed, idle, offered, more, forwarded, empty, within, only⟩ :=
    relaying_forwardFrame relaying
  have released := passage_released_of_idle forwarded.attached forwarded.ready forwarded.chosen
    empty
  rw [released_forwardFrame ready] at released
  obtain ⟨finished, counted⟩ := forwarded.release empty
  rw [released]
  exact ⟨_, finished, counted ▸ within, only.trans (Passage.onlyAt_released forwarded.chosen)⟩

end World

/-! ## Productions -/

private theorem Passage.producedOn_self {passage : Passage} {origin : Nat} {queue : FrameSource}
    (found : passage.sources[origin]? = some queue) (timestamp : Timestamp) :
    passage.producedOn origin (some (origin, timestamp)) =
      [⟨timestamp, queue.size, queue.format⟩] := by
  simp [producedOn, found]

theorem Passage.producedOn_ne {passage : Passage} {origin source : Nat} (other : source ≠ origin)
    (timestamp : Timestamp) : passage.producedOn origin (some (source, timestamp)) = [] :=
  if_neg other

theorem FrameLog.next_of_unaccepted {passage after : Passage} {origin : Nat} {queue : FrameSource}
    (found : passage.sources[origin]? = some queue) (timestamp : Timestamp)
    (unaccepted : passage.acceptedUntil after = []) (log : FrameLog) :
    log.next origin passage (some (origin, timestamp)) after =
      { log with produced := log.produced ++ [⟨timestamp, queue.size, queue.format⟩] } := by
  simp [next, Passage.producedOn_self found, unaccepted]

namespace World

variable {world : ReplayWorld} {origin outlet : Nat} {log : FrameLog} {queue : FrameSource}
  {relay : Relay Frame} {output : Output} {done : List (Frame × Bool)}

theorem relaying_produce
    (relaying : world.passage.Relaying origin outlet log queue relay output done)
    (timestamp : Timestamp) :
    let after := (world.produce origin timestamp).2.passage
    ∃ changed changedRelay,
      after.Relaying origin outlet (log.next origin world.passage (some (origin, timestamp)) after)
        changed changedRelay output done ∧ relay.stats.Within changedRelay.stats ∧
        world.passage.OnlyAt origin after := by
  have found : world.surfaces.source? origin = some queue := relaying.found
  have attached : world.session.relay = some relay := relaying.attached
  have ready := relaying.ready
  have underWay : world.passage.underWay = relay.slot.toList := relaying.underWay_eq
  intro after
  cases room : queue.accepts with
  | false =>
      have same : after = world.passage.replaced origin (queue.produce timestamp).2 :=
        passage_produce_of_unnoticed found (.inr (.inr room)) timestamp
      have unaccepted : world.passage.acceptedUntil after = [] :=
        Passage.acceptedUntil_of_same (by rw [same]; rfl)
      rw [FrameLog.next_of_unaccepted relaying.found timestamp unaccepted, same]
      exact ⟨(queue.produce timestamp).2, relay, relaying.overflow timestamp, .refl _,
        .of_modify rfl⟩
  | true =>
      obtain ⟨oldest, rest, next, _⟩ := exists_oldest queue timestamp
      have same : after = { world.passage.replaced origin (queue.passed rest relay.busy) with
          relay := some (relay.arrived oldest) } :=
        passage_produce_of_room found attached ready relaying.listened room next
      have within := RelayStats.Within.arrived oldest relay
      cases sent : relay.slot with
      | some frame =>
          have busy : relay.busy = true := ready.occupied.trans (by rw [sent]; rfl)
          have dropped : relay.arrived oldest = relay.countDropped := by
            simp [Relay.arrived, busy]
          have unaccepted : world.passage.acceptedUntil after = [] :=
            if_neg (by simp [underWay, sent])
          rw [dropped] at same within
          rw [busy] at same
          rw [FrameLog.next_of_unaccepted relaying.found timestamp unaccepted, same]
          exact ⟨queue.passed rest true, relay.countDropped, relaying.drop next, within,
            .of_modify rfl⟩
      | none =>
          have busy : relay.busy = false := ready.occupied.trans (by rw [sent]; rfl)
          have taken : relay.arrived oldest =
              { relay with busy := true, slot := some oldest } := by
            simp [Relay.arrived, busy]
          have accepted : world.passage.acceptedUntil after = [oldest] := by
            have nothing : world.passage.underWay = [] := by rw [underWay, sent]; rfl
            rw [Passage.acceptedUntil, if_pos nothing, same, taken]
            simp [Passage.underWay, Relay.inFlight, ready.waiting]
          rw [taken] at same within
          rw [busy] at same
          rw [FrameLog.next, Passage.producedOn_self relaying.found, accepted, same]
          exact ⟨queue.passed rest false, _, relaying.accept sent next, within, .of_modify rfl⟩

end World

end EyesFree
