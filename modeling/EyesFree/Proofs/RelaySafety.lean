import EyesFree.Proofs.RelayMoves

namespace EyesFree

/-! What the flag and the slot of a relay guarantee together. The flag is up exactly
as long as one frame is under way: with a producer that did not send it yet, in the
slot, or with the worker. -/

/-! ## Who holds the flag -/

def OfferProgress.holds : OfferProgress → Bool
  | .claimed => true
  | .unsent => true
  | _ => false

namespace RelayWorker

variable {φ : Type}

def holds : RelayWorker φ → Bool
  | .forwarding _ => true
  | .written _ _ => true
  | .forwarded _ => true
  | _ => false

/-- Whether the worker took a frame that it did not count yet. -/
def uncounted : RelayWorker φ → Bool
  | .cleared _ => true
  | worker => worker.holds

def unwritten : RelayWorker φ → List φ
  | .forwarding frame => [frame]
  | _ => []

def unreleased : RelayWorker φ → List φ
  | .forwarding frame => [frame]
  | .written frame _ => [frame]
  | _ => []

end RelayWorker

namespace RelayThreads

def holders (threads : RelayThreads) : Nat :=
  threads.offers.countP OfferProgress.holds + threads.relay.slot.toList.length +
    threads.relay.worker.holds.toNat

theorem countP_set_add {α : Type} (counted : α → Bool) {items : List α} {place : Nat} {before : α}
    (found : items[place]? = some before) (after : α) :
    (items.set place after).countP counted + (counted before).toNat =
      items.countP counted + (counted after).toNat := by
  induction items generalizing place with
  | nil => cases found
  | cons first rest induction =>
      cases place with
      | zero =>
          cases found
          rw [List.set_cons_zero, List.countP_cons, List.countP_cons]
          cases counted before <;> cases counted after <;> simp
      | succ place =>
          have step := induction found
          rw [List.set_cons_succ, List.countP_cons, List.countP_cons]
          omega

variable {threads after : RelayThreads}

private theorem holders_reach {frame : Nat} {before : OfferProgress}
    (found : threads.offers[frame]? = some before) (progress : OfferProgress) :
    (threads.reach frame progress).holders + before.holds.toNat =
      threads.holders + progress.holds.toNat := by
  have balance := countP_set_add OfferProgress.holds found progress
  unfold holders
  simp only [reach]
  omega

theorem holders_move (move : threads.Move after)
    (token : threads.holders = threads.relay.busy.toNat) :
    after.holders = after.relay.busy.toNat := by
  cases move with
  | enter => simpa [holders, OfferProgress.holds] using token
  | claim found idle =>
      rw [idle] at token
      have taken := @holders_reach
        { threads with relay := { threads.relay with busy := true } } _ _ found .claimed
      exact taken.trans (congrArg (· + 1) token)
  | refuse found => exact (holders_reach found .refused).trans token
  | @send frame found sending empty =>
      have handed := holders_reach found (.answered .accepted)
      simp only [holders, reach, empty, OfferProgress.holds, Bool.toNat_true, Bool.toNat_false,
        Option.toList_none, Option.toList_some, List.length_nil, List.length_singleton]
        at handed token ⊢
      omega
  | fail found => exact (Nat.succ.inj (holders_reach found .unsent)).trans token
  | lower found =>
      have bound := Bool.toNat_le threads.relay.busy
      have lowered : (threads.reach _ .refused).holders + 1 = threads.holders :=
        holders_reach found .refused
      change (threads.reach _ .refused).holders = 0
      omega
  | countDropped found => exact (holders_reach found .counted).trans token
  | drop found => exact (holders_reach found (.answered .dropped)).trans token
  | receive waiting sent => simpa [holders, RelayWorker.holds, waiting, sent] using token
  | stop waiting empty severed => simpa [holders, RelayWorker.holds, waiting] using token
  | write queued forwarding => simpa [holders, RelayWorker.holds, forwarding] using token
  | release written => simpa [holders, RelayWorker.holds, written] using token
  | clear forwarded =>
      have bound := Bool.toNat_le threads.relay.busy
      simp only [holders, forwarded, RelayWorker.holds, Bool.toNat_true, Bool.toNat_false]
        at token ⊢
      omega
  | count cleared => simpa [holders, RelayWorker.holds, cleared] using token
  | beginShutdown => exact token
  | sever found => exact token
  | takeHandle found => exact token
  | leave found => exact token
  | join found stopped => exact token

/-- Without the flag, or while a producer holds it, nothing else is under way. -/
theorem idle_of_claimed (token : threads.holders = threads.relay.busy.toNat) {frame : Nat}
    {progress : OfferProgress} (found : threads.offers[frame]? = some progress)
    (claimed : progress.holds = true) :
    threads.relay.slot = none ∧ threads.relay.worker.holds = false := by
  have positive : 0 < threads.offers.countP OfferProgress.holds :=
    List.countP_pos_iff.mpr ⟨progress, List.mem_of_getElem? found, claimed⟩
  have bound := Bool.toNat_le threads.relay.busy
  unfold holders at token
  have slot : threads.relay.slot.toList.length = 0 := by omega
  have worker : threads.relay.worker.holds.toNat = 0 := by omega
  refine ⟨?_, Bool.toNat_eq_zero.mp worker⟩
  exact Option.toList_eq_nil_iff.mp (List.length_eq_zero_iff.mp slot)

private theorem slot_eq_none_of_holds (token : threads.holders = threads.relay.busy.toNat)
    (holds : threads.relay.worker.holds = true) : threads.relay.slot = none := by
  have bound := Bool.toNat_le threads.relay.busy
  unfold holders at token
  rw [holds, Bool.toNat_true] at token
  have slot : threads.relay.slot.toList.length = 0 := by omega
  exact Option.toList_eq_nil_iff.mp (List.length_eq_zero_iff.mp slot)

/-! ## The way of accepted frames -/

/-- Accepted frames go through the slot and the worker to the output, until the worker ends. -/
structure Ordered (threads : RelayThreads) : Prop where
  order : threads.accepted =
    threads.written ++ (threads.relay.worker.unwritten ++ threads.relay.slot.toList)
  ended : threads.relay.worker = .stopped →
    threads.relay.slot = none ∧ threads.relay.sending = false
  joined : .returned true ∈ threads.shutdowns → threads.relay.worker = .stopped

private theorem joined_of_reachShutdown {call : Nat} {progress : ShutdownProgress}
    (unjoined : progress ≠ .returned true)
    (joined : .returned true ∈ (threads.reachShutdown call progress).shutdowns) :
    .returned true ∈ threads.shutdowns := by
  rcases List.mem_or_eq_of_mem_set joined with earlier | new
  · exact earlier
  · exact absurd new.symm unjoined

/-- A worker that goes on without an end keeps the frames in order if it takes them in order. -/
private theorem Ordered.of_worker (ordered : threads.Ordered)
    (running : threads.relay.worker ≠ .stopped) (further : after.relay.worker ≠ .stopped)
    (shutdowns : after.shutdowns = threads.shutdowns)
    (order : after.accepted =
      after.written ++ (after.relay.worker.unwritten ++ after.relay.slot.toList)) :
    after.Ordered where
  order := order
  ended := fun stopped => absurd stopped further
  joined := fun joined => absurd (ordered.joined (shutdowns ▸ joined)) running

theorem Ordered.move (ordered : threads.Ordered) (move : threads.Move after) :
    after.Ordered := by
  have order := ordered.order
  cases move with
  | enter => exact { ordered with }
  | claim => exact { ordered with }
  | refuse => exact { ordered with }
  | @send frame found sending empty =>
      rw [empty, Option.toList_none, List.append_nil] at order
      exact { ordered with
        order := by simp [reach, order]
        ended := by
          intro stopped
          rw [(ordered.ended stopped).2] at sending
          cases sending }
  | fail => exact { ordered with }
  | lower => exact { ordered with }
  | countDropped => exact { ordered with }
  | drop => exact { ordered with }
  | receive waiting sent =>
      rw [waiting, sent] at order
      exact ordered.of_worker (by simp [waiting]) (by simp) rfl order
  | stop waiting empty severed =>
      rw [waiting, empty] at order
      exact {
        order := by rw [empty]; exact order
        ended := fun _ => ⟨empty, severed⟩
        joined := fun _ => rfl }
  | write queued forwarding =>
      rw [forwarding] at order
      exact ordered.of_worker (by simp [forwarding]) (by simp) rfl
        (by simpa [RelayWorker.unwritten] using order)
  | release written =>
      rw [written] at order
      exact ordered.of_worker (by simp [written]) (by simp) rfl order
  | clear forwarded =>
      rw [forwarded] at order
      exact ordered.of_worker (by simp [forwarded]) (by simp) rfl order
  | count cleared =>
      rw [cleared] at order
      exact ordered.of_worker (by simp [cleared]) (by simp) rfl order
  | beginShutdown => exact { ordered with joined := by simpa using ordered.joined }
  | sever found =>
      exact { ordered with
        ended := fun stopped => ⟨(ordered.ended stopped).1, rfl⟩
        joined := fun joined => ordered.joined (joined_of_reachShutdown (by decide) joined) }
  | takeHandle found =>
      exact { ordered with
        joined := fun joined => ordered.joined (joined_of_reachShutdown (by decide) joined) }
  | leave found =>
      exact { ordered with
        joined := fun joined => ordered.joined (joined_of_reachShutdown (by decide) joined) }
  | join found stopped => exact { ordered with joined := fun _ => stopped }

/-! ## Answers and releases -/

def underWay (threads : RelayThreads) : List Nat :=
  threads.relay.worker.unreleased ++ threads.relay.slot.toList

/-- What the answers tell about the frames. A frame is released when its offer was answered
with a drop, or when it was accepted and is no longer under way; none is released twice. -/
structure Settled (threads : RelayThreads) : Prop where
  answered : ∀ frame, frame ∈ threads.accepted ↔
    threads.offers[frame]? = some (.answered .accepted)
  distinct : threads.accepted.Nodup
  taken : ∀ frame ∈ threads.underWay, frame ∈ threads.accepted
  freed : ∀ frame, frame ∈ threads.released ↔
    threads.offers[frame]? = some (.answered .dropped) ∨
      frame ∈ threads.accepted ∧ frame ∉ threads.underWay
  once : threads.released.Nodup

private theorem getElem?_set_eq_some_iff {α : Type} {items : List α} {place : Nat}
    {before after : α} (found : items[place]? = some before) {value : α} (old : before ≠ value)
    (new : after ≠ value) (other : Nat) :
    (items.set place after)[other]? = some value ↔ items[other]? = some value := by
  by_cases same : place = other
  · subst same
    obtain ⟨inside, _⟩ := List.getElem?_eq_some_iff.mp found
    rw [List.getElem?_set_self inside, found]
    simp [old, new]
  · rw [List.getElem?_set_ne same]

private theorem Settled.of_answers (settled : threads.Settled)
    (accepted : after.accepted = threads.accepted) (released : after.released = threads.released)
    (under : after.underWay = threads.underWay)
    (same : ∀ (answer : Offer) (frame : Nat), after.offers[frame]? = some (.answered answer) ↔
      threads.offers[frame]? = some (.answered answer)) : after.Settled where
  answered := by
    intro frame
    rw [accepted, same]
    exact settled.answered frame
  distinct := accepted ▸ settled.distinct
  taken := by
    rw [accepted, under]
    exact settled.taken
  freed := by
    intro frame
    rw [accepted, released, under, same]
    exact settled.freed frame
  once := released ▸ settled.once

private theorem Settled.send (settled : threads.Settled) {frame : Nat}
    (found : threads.offers[frame]? = some .claimed) (empty : threads.relay.slot = none) :
    Settled ({ threads with
      relay := { threads.relay with slot := some frame }
      accepted := threads.accepted ++ [frame] }.reach frame (.answered .accepted)) := by
  obtain ⟨inside, _⟩ := List.getElem?_eq_some_iff.mp found
  have new : frame ∉ threads.accepted := by
    rw [settled.answered, found]
    simp
  have unreleased : frame ∉ threads.released := by
    rw [settled.freed, found]
    simp [new]
  have under : threads.underWay = threads.relay.worker.unreleased := by
    simp [underWay, empty]
  refine ⟨?_, ?_, ?_, ?_, settled.once⟩
  · intro other
    by_cases same : other = frame
    · subst same
      simp [RelayThreads.reach, inside]
    · have before := settled.answered other
      simp [RelayThreads.reach, same, List.getElem?_set_ne (Ne.symm same), before]
  · rw [RelayThreads.reach, ← List.concat_eq_append]
    exact settled.distinct.concat new
  · intro other member
    rcases List.mem_append.mp member with worker | slot
    · exact List.mem_append_left _ (settled.taken other (under ▸ worker))
    · exact List.mem_append_right _ slot
  · intro other
    by_cases same : other = frame
    · subst same
      simp [RelayThreads.reach, RelayThreads.underWay, inside, unreleased]
    · have before := settled.freed other
      rw [under] at before
      simp [RelayThreads.reach, RelayThreads.underWay, same, List.getElem?_set_ne (Ne.symm same),
        before]

private theorem Settled.drop (settled : threads.Settled) {frame : Nat}
    (found : threads.offers[frame]? = some .counted) :
    Settled ({ threads with released := threads.released ++ [frame] }.reach frame
      (.answered .dropped)) := by
  obtain ⟨inside, _⟩ := List.getElem?_eq_some_iff.mp found
  have unaccepted : frame ∉ threads.accepted := by
    rw [settled.answered, found]
    simp
  have unreleased : frame ∉ threads.released := by
    rw [settled.freed, found]
    simp [unaccepted]
  refine ⟨?_, settled.distinct, settled.taken, ?_, ?_⟩
  · intro other
    exact (settled.answered other).trans
      (getElem?_set_eq_some_iff found (by simp) (by simp) other).symm
  · intro other
    by_cases same : other = frame
    · subst same
      simp [RelayThreads.reach, inside]
    · have before := settled.freed other
      simp only [RelayThreads.underWay] at before
      simp [RelayThreads.reach, RelayThreads.underWay, same, List.getElem?_set_ne (Ne.symm same),
        before]
  · rw [← List.concat_eq_append]
    exact settled.once.concat unreleased

private theorem Settled.release (settled : threads.Settled) {frame : Nat} {queued : Bool}
    (written : threads.relay.worker = .written frame queued)
    (empty : threads.relay.slot = none) :
    Settled { threads with
      relay := { threads.relay with worker := .forwarded queued }
      released := threads.released ++ [frame] } := by
  have under : threads.underWay = [frame] := by
    simp [underWay, written, empty, RelayWorker.unreleased]
  have accepted : frame ∈ threads.accepted := settled.taken frame (by simp [under])
  have undropped : threads.offers[frame]? ≠ some (.answered .dropped) := by
    rw [(settled.answered frame).mp accepted]
    simp
  have unreleased : frame ∉ threads.released := by
    rw [settled.freed, under]
    simp [undropped]
  have none : RelayThreads.underWay { threads with
      relay := { threads.relay with worker := .forwarded queued }
      released := threads.released ++ [frame] } = [] := by
    simp [underWay, empty, RelayWorker.unreleased]
  refine ⟨settled.answered, settled.distinct, by simp [none], ?_, ?_⟩
  · intro other
    have before := settled.freed other
    rw [under] at before
    rw [none]
    by_cases same : other = frame
    · subst same
      simp [accepted]
    · simp [same, before]
  · rw [← List.concat_eq_append]
    exact settled.once.concat unreleased

theorem Settled.move (settled : threads.Settled)
    (token : threads.holders = threads.relay.busy.toNat) (move : threads.Move after) :
    after.Settled := by
  have quiet {frame : Nat} {before : OfferProgress} (found : threads.offers[frame]? = some before)
      (progress : OfferProgress) (old : ∀ answer, before ≠ .answered answer)
      (new : ∀ answer, progress ≠ .answered answer) (answer : Offer) :=
    getElem?_set_eq_some_iff found (old answer) (new answer)
  cases move with
  | enter =>
      refine settled.of_answers rfl rfl rfl ?_
      intro answer frame
      by_cases earlier : frame < threads.offers.length
      · rw [List.getElem?_append_left earlier]
      · have absent : threads.offers[frame]? = none := List.getElem?_eq_none (by omega)
        rw [List.getElem?_append_right (by omega), absent]
        cases frame - threads.offers.length <;> simp
  | claim found idle =>
      exact settled.of_answers rfl rfl rfl (quiet found .claimed (by simp) (by simp))
  | refuse found =>
      exact settled.of_answers rfl rfl rfl (quiet found .refused (by simp) (by simp))
  | send found sending empty => exact settled.send found empty
  | fail found =>
      exact settled.of_answers rfl rfl rfl (quiet found .unsent (by simp) (by simp))
  | lower found =>
      exact settled.of_answers rfl rfl rfl (quiet found .refused (by simp) (by simp))
  | countDropped found =>
      exact settled.of_answers rfl rfl rfl (quiet found .counted (by simp) (by simp))
  | drop found => exact settled.drop found
  | receive waiting sent =>
      exact settled.of_answers rfl rfl (by simp [underWay, waiting, sent, RelayWorker.unreleased])
        fun _ _ => Iff.rfl
  | stop waiting empty severed =>
      exact settled.of_answers rfl rfl (by simp [underWay, waiting, RelayWorker.unreleased])
        fun _ _ => Iff.rfl
  | write queued forwarding =>
      exact settled.of_answers rfl rfl (by simp [underWay, forwarding, RelayWorker.unreleased])
        fun _ _ => Iff.rfl
  | release written =>
      exact settled.release written (slot_eq_none_of_holds token (by rw [written]; rfl))
  | clear forwarded =>
      exact settled.of_answers rfl rfl (by simp [underWay, forwarded, RelayWorker.unreleased])
        fun _ _ => Iff.rfl
  | count cleared =>
      exact settled.of_answers rfl rfl (by simp [underWay, cleared, RelayWorker.unreleased])
        fun _ _ => Iff.rfl
  | beginShutdown => exact settled.of_answers rfl rfl rfl fun _ _ => Iff.rfl
  | sever => exact settled.of_answers rfl rfl rfl fun _ _ => Iff.rfl
  | takeHandle => exact settled.of_answers rfl rfl rfl fun _ _ => Iff.rfl
  | leave => exact settled.of_answers rfl rfl rfl fun _ _ => Iff.rfl
  | join => exact settled.of_answers rfl rfl rfl fun _ _ => Iff.rfl

end RelayThreads

end EyesFree
