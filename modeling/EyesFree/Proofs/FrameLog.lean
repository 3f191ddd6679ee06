import EyesFree.Proofs.Transfer

namespace EyesFree

/-! A log of the frames that were produced and accepted, and how it is reflected in
counters. Each frame that was produced on a source waits in it, is held by the
relay, or was released; each frame that the relay accepted is under way, queued in
the output, or failed. -/

/-! ## What is logged of a run -/

/-- The frames that were produced on a source, and those that the relay accepted, in order. -/
structure FrameLog where
  produced : List Frame := []
  accepted : List Frame := []

namespace Passage

/-- The frame that the relay accepted and that its worker did not forward yet. -/
def underWay (passage : Passage) : List Frame := (passage.relay.bind Relay.inFlight).toList

/-- Counters of the relay; the final ones after it was shut down. -/
def stats (passage : Passage) : RelayStats :=
  match passage.relay with
  | some relay => relay.stats
  | none => passage.finalStats

theorem underWay_of_detached {passage : Passage} (detached : passage.relay = none) :
    passage.underWay = [] := by
  simp [underWay, detached]

theorem stats_of_detached {passage : Passage} (detached : passage.relay = none) :
    passage.stats = passage.finalStats := by
  simp [stats, detached]

theorem stats_of_attached {passage : Passage} {relay : Relay Frame}
    (attached : passage.relay = some relay) : passage.stats = relay.stats := by
  simp [stats, attached]

def producedOn (origin : Nat) (passage : Passage) : Option (Nat × Timestamp) → List Frame
  | some (source, timestamp) =>
      if source = origin then
        passage.sources[source]?.toList.map fun queue => ⟨timestamp, queue.size, queue.format⟩
      else []
  | none => []

def acceptedUntil (passage after : Passage) : List Frame :=
  if passage.underWay = [] then after.underWay else []

theorem acceptedUntil_of_same {passage after : Passage} (same : after.relay = passage.relay) :
    passage.acceptedUntil after = [] := by
  have underWay : after.underWay = passage.underWay := by rw [Passage.underWay, same]; rfl
  unfold acceptedUntil
  split
  next none => exact underWay.trans none
  next => rfl

theorem acceptedUntil_of_idle {passage after : Passage} (idle : after.underWay = []) :
    passage.acceptedUntil after = [] := by
  unfold acceptedUntil
  split
  next => exact idle
  next => rfl

end Passage

def FrameLog.next (origin : Nat) (passage : Passage) (production : Option (Nat × Timestamp))
    (after : Passage) (log : FrameLog) : FrameLog where
  produced := log.produced ++ passage.producedOn origin production
  accepted := log.accepted ++ passage.acceptedUntil after

/-! ## Counters -/

structure RelayStats.Within (stats later : RelayStats) : Prop where
  forwarded : stats.forwarded ≤ later.forwarded
  dropped : stats.dropped ≤ later.dropped
  failed : stats.failed ≤ later.failed

namespace RelayStats.Within

variable {stats later last : RelayStats}

theorem refl (stats : RelayStats) : stats.Within stats :=
  ⟨Nat.le_refl _, Nat.le_refl _, Nat.le_refl _⟩

theorem of_eq (same : later = stats) : stats.Within later := same ▸ refl stats

theorem trans (first : stats.Within later) (second : later.Within last) : stats.Within last :=
  ⟨Nat.le_trans first.forwarded second.forwarded, Nat.le_trans first.dropped second.dropped,
    Nat.le_trans first.failed second.failed⟩

theorem zero (later : RelayStats) : Within {} later :=
  ⟨Nat.zero_le _, Nat.zero_le _, Nat.zero_le _⟩

theorem countOutcome (queued : Bool) (stats : RelayStats) :
    stats.Within (Relay.countOutcome queued stats) := by
  cases queued with
  | true => exact ⟨Nat.le_succ _, Nat.le_refl _, Nat.le_refl _⟩
  | false => exact ⟨Nat.le_refl _, Nat.le_refl _, Nat.le_succ _⟩

theorem arrived (frame : Frame) (relay : Relay Frame) :
    relay.stats.Within (relay.arrived frame).stats := by
  unfold Relay.arrived
  split
  · exact ⟨Nat.le_refl _, Nat.le_succ _, Nat.le_refl _⟩
  · exact refl _

end RelayStats.Within

/-! ## Frames of the source -/

/-- Every frame that was produced was released, waits in the source, or is held by
the relay. The relay took frames in the order in which they were produced, and those
that wait came later. -/
structure FrameSource.Balanced (queue : FrameSource) (log : FrameLog) (held : List Frame) :
    Prop where
  counted : queue.produced = log.produced.length
  accounted : queue.produced = queue.released + queue.queue.length + held.length
  order : (log.accepted ++ queue.queue).Sublist log.produced

namespace FrameSource.Balanced

variable {queue : FrameSource} {log : FrameLog} {held : List Frame}

theorem produce (balanced : queue.Balanced log held) (timestamp : Timestamp) :
    (queue.produce timestamp).2.Balanced
      { log with produced := log.produced ++ [⟨timestamp, queue.size, queue.format⟩] } held := by
  obtain ⟨counted, accounted, order⟩ := balanced
  unfold FrameSource.produce
  cases queue.accepts with
  | true =>
      refine ⟨?_, ?_, ?_⟩
      · simp [counted]
      · simp only [if_true, List.length_append, List.length_singleton]
        omega
      · simpa using order.append_right _
  | false =>
      refine ⟨?_, ?_, ?_⟩
      · simp [counted, FrameSource.release]
      · simp only [FrameSource.release, Bool.false_eq_true, if_false]
        omega
      · exact order.trans (List.sublist_append_left _ _)

theorem drop (balanced : queue.Balanced log held) {timestamp : Timestamp} {oldest : Frame}
    {rest : List Frame}
    (next : queue.queue ++ [⟨timestamp, queue.size, queue.format⟩] = oldest :: rest) :
    (queue.passed rest true).Balanced
      { log with produced := log.produced ++ [⟨timestamp, queue.size, queue.format⟩] } held := by
  obtain ⟨counted, accounted, order⟩ := balanced
  have length : queue.queue.length = rest.length := by simpa using congrArg List.length next
  refine ⟨?_, ?_, ?_⟩
  · simp [FrameSource.passed, counted]
  · simp only [FrameSource.passed, Bool.toNat_true]
    omega
  · have fewer : (log.accepted ++ rest).Sublist (log.accepted ++ oldest :: rest) :=
      (List.sublist_cons_self _ _).append_left _
    rw [← next, ← List.append_assoc] at fewer
    exact fewer.trans (order.append_right _)

theorem accept (balanced : queue.Balanced log []) {timestamp : Timestamp} {oldest : Frame}
    {rest : List Frame}
    (next : queue.queue ++ [⟨timestamp, queue.size, queue.format⟩] = oldest :: rest) :
    (queue.passed rest false).Balanced
      ⟨log.produced ++ [⟨timestamp, queue.size, queue.format⟩], log.accepted ++ [oldest]⟩
      [oldest] := by
  obtain ⟨counted, accounted, order⟩ := balanced
  have length : queue.queue.length = rest.length := by simpa using congrArg List.length next
  refine ⟨?_, ?_, ?_⟩
  · simp [FrameSource.passed, counted]
  · simp only [FrameSource.passed, Bool.toNat_false, List.length_singleton]
    simp only [List.length_nil] at accounted
    omega
  · have same : log.accepted ++ [oldest] ++ rest =
        log.accepted ++ queue.queue ++ [⟨timestamp, queue.size, queue.format⟩] := by
      simp [next]
    change (log.accepted ++ [oldest] ++ rest).Sublist _
    rw [same]
    exact order.append_right _

theorem release {frame : Frame} (balanced : queue.Balanced log [frame]) :
    (queue.release 1).Balanced log [] where
  counted := balanced.counted
  accounted := by
    have accounted := balanced.accounted
    simp only [FrameSource.release, List.length_nil]
    simp only [List.length_singleton] at accounted
    omega
  order := balanced.order

theorem close (balanced : queue.Balanced log held) (opened : queue.closed = false) :
    (queue.setListened false).close.Balanced log held := by
  rw [FrameSource.close_setListened opened]
  exact {
    counted := balanced.counted
    accounted := balanced.accounted
    order := by
      rw [List.append_nil]
      exact (List.sublist_append_left _ _).trans balanced.order }

end FrameSource.Balanced

/-! ## Frames of the relay -/

/-- The relay is done with some of the frames that it accepted, and has one more at
most. The output queued those that it did not refuse, and it refuses none unless
the client gave it up. -/
structure FrameLog.Settled (log : FrameLog) (held : List Frame) (stats : RelayStats)
    (output : Output) (done : List (Frame × Bool)) : Prop where
  accepted : log.accepted = done.map (·.1) ++ held
  queued : output.queued = (done.filter (·.2)).map (·.1.timestamp)
  forwarded : stats.forwarded = (done.filter (·.2)).length
  failed : stats.failed = (done.filter (!·.2)).length
  faithful : output.abandoned = false → ∀ entry ∈ done, entry.2 = true

namespace FrameLog.Settled

variable {log : FrameLog} {held : List Frame} {stats : RelayStats} {output : Output}
  {done : List (Frame × Bool)}

theorem accept (settled : log.Settled [] stats output done) (frame : Frame)
    {produced : List Frame} :
    Settled ⟨produced, log.accepted ++ [frame]⟩ [frame] stats output done :=
  { settled with accepted := by simp [settled.accepted] }

theorem forward {frame : Frame} (settled : log.Settled [frame] stats output done) :
    log.Settled [] (Relay.countOutcome (!output.abandoned) stats)
      (output.offered frame.timestamp) (done ++ [(frame, !output.abandoned)]) := by
  have ⟨accepted, queued, forwarded, failed, faithful⟩ := settled
  cases abandoned : output.abandoned with
  | true =>
      exact {
        accepted := by simp [accepted]
        queued := by simp [Output.offered, abandoned, queued]
        forwarded := by simp [Relay.countOutcome, forwarded]
        failed := by simp [Relay.countOutcome, failed]
        faithful := by simp [Output.offered, abandoned] }
  | false =>
      exact {
        accepted := by simp [accepted]
        queued := by simp [Output.offered, abandoned, queued]
        forwarded := by simp [Relay.countOutcome, forwarded]
        failed := by simp [Relay.countOutcome, failed]
        faithful := fun _ entry member => by
          rcases List.mem_append.mp member with earlier | last
          · exact faithful abandoned entry earlier
          · rw [List.mem_singleton.mp last]
            rfl }

theorem abandon (settled : log.Settled held stats output done) :
    log.Settled held stats { output with abandoned := true } done :=
  { settled with faithful := by simp }

theorem close (settled : log.Settled held stats output done) :
    log.Settled held stats { output with closeCalls := output.closeCalls + 1 } done :=
  { settled with }

/-- While nothing was refused, as many frames were forwarded as were done with. -/
theorem failed_eq_zero (settled : log.Settled held stats output done)
    (kept : output.abandoned = false) : stats.failed = 0 := by
  rw [settled.failed, List.length_eq_zero_iff, List.filter_eq_nil_iff]
  intro entry member
  simp [settled.faithful kept entry member]

end FrameLog.Settled

end EyesFree
