import EyesFree.Proofs.RelaySafety

namespace EyesFree

/-! What becomes of every frame that is offered to a relay, in any order of the steps of its
threads, and what the counters say in the end. -/

namespace RelayThreads

variable {threads after : RelayThreads}

/-! ## Counters -/

/-- The counters and the answers agree, up to what is not counted or answered yet. -/
structure Counted (threads : RelayThreads) : Prop where
  taken : threads.accepted.length = threads.offers.count (.answered .accepted)
  outcomes : threads.relay.stats.forwarded + threads.relay.stats.failed +
    threads.relay.worker.uncounted.toNat + threads.relay.slot.toList.length =
      threads.accepted.length
  drops : threads.relay.stats.dropped =
    threads.offers.count .counted + threads.offers.count (.answered .dropped)

private theorem count_set_add {items : List OfferProgress} {place : Nat} {before : OfferProgress}
    (found : items[place]? = some before) (after value : OfferProgress) :
    (items.set place after).count value + (before == value).toNat =
      items.count value + (after == value).toNat :=
  countP_set_add (· == value) found after

private theorem count_set_of_ne {items : List OfferProgress} {place : Nat}
    {before after : OfferProgress}
    (found : items[place]? = some before) {value : OfferProgress} (old : before ≠ value)
    (new : after ≠ value) : (items.set place after).count value = items.count value := by
  have balance := count_set_add found after value
  rw [beq_false_of_ne old, beq_false_of_ne new] at balance
  exact balance

private theorem count_set_self {items : List OfferProgress} {place : Nat}
    {before : OfferProgress} (found : items[place]? = some before) {value : OfferProgress}
    (old : before ≠ value) : (items.set place value).count value = items.count value + 1 := by
  have balance := count_set_add found value value
  rw [beq_false_of_ne old, beq_self_eq_true] at balance
  exact balance

private theorem count_set_add_one {items : List OfferProgress} {place : Nat}
    {value : OfferProgress} (found : items[place]? = some value) {after : OfferProgress}
    (new : after ≠ value) : (items.set place after).count value + 1 = items.count value := by
  have balance := count_set_add found after value
  rw [beq_false_of_ne new, beq_self_eq_true] at balance
  exact balance

private theorem forwarded_add_failed_countOutcome (queued : Bool) (stats : RelayStats) :
    (Relay.countOutcome queued stats).forwarded + (Relay.countOutcome queued stats).failed =
      stats.forwarded + stats.failed + 1 := by
  cases queued <;> simp [Relay.countOutcome] <;> omega

private theorem dropped_countOutcome (queued : Bool) (stats : RelayStats) :
    (Relay.countOutcome queued stats).dropped = stats.dropped := by
  cases queued <;> rfl

private theorem Counted.of_quiet (counted : threads.Counted) {frame : Nat}
    {before : OfferProgress}
    (found : threads.offers[frame]? = some before) (progress : OfferProgress)
    (old : before ≠ .counted ∧ ∀ answer, before ≠ .answered answer)
    (new : progress ≠ .counted ∧ ∀ answer, progress ≠ .answered answer)
    (accepted : after.accepted = threads.accepted)
    (offers : after.offers = threads.offers.set frame progress)
    (stats : after.relay.stats = threads.relay.stats)
    (worker : after.relay.worker = threads.relay.worker)
    (slot : after.relay.slot = threads.relay.slot) : after.Counted := by
  refine ⟨?_, ?_, ?_⟩
  · rw [accepted, offers, count_set_of_ne found (old.2 .accepted) (new.2 .accepted)]
    exact counted.taken
  · rw [accepted, stats, worker, slot]
    exact counted.outcomes
  · rw [stats, offers, count_set_of_ne found old.1 new.1,
      count_set_of_ne found (old.2 .dropped) (new.2 .dropped)]
    exact counted.drops

/-- No counter is concerned by a worker that goes on with the frame that it took. -/
private theorem Counted.of_worker (counted : threads.Counted)
    (accepted : after.accepted = threads.accepted) (offers : after.offers = threads.offers)
    (stats : after.relay.stats = threads.relay.stats)
    (kept : after.relay.worker.uncounted.toNat + after.relay.slot.toList.length =
      threads.relay.worker.uncounted.toNat + threads.relay.slot.toList.length) :
    after.Counted := by
  have outcomes := counted.outcomes
  refine ⟨?_, ?_, ?_⟩
  · rw [accepted, offers]
    exact counted.taken
  · rw [accepted, stats]
    omega
  · rw [stats, offers]
    exact counted.drops

private theorem Counted.send (counted : threads.Counted) {frame : Nat}
    (found : threads.offers[frame]? = some .claimed) (empty : threads.relay.slot = none) :
    Counted ({ threads with
      relay := { threads.relay with slot := some frame }
      accepted := threads.accepted ++ [frame] }.reach frame (.answered .accepted)) := by
  have outcomes := counted.outcomes
  rw [empty, Option.toList_none, List.length_nil] at outcomes
  refine ⟨?_, ?_, ?_⟩
  · simp only [reach, List.length_append, List.length_singleton]
    rw [count_set_self found (by simp), counted.taken]
  · simp only [reach, Option.toList_some, List.length_append, List.length_singleton]
    omega
  · simp only [reach]
    rw [count_set_of_ne found (by simp) (by simp), count_set_of_ne found (by simp) (by simp)]
    exact counted.drops

private theorem Counted.countDropped (counted : threads.Counted) {frame : Nat}
    (found : threads.offers[frame]? = some .refused) :
    Counted ({ threads with relay := threads.relay.countDropped }.reach frame .counted) := by
  have drops := counted.drops
  refine ⟨?_, counted.outcomes, ?_⟩
  · simp only [reach]
    rw [count_set_of_ne found (by simp) (by simp)]
    exact counted.taken
  · simp only [reach, Relay.countDropped]
    rw [count_set_self found (by simp), count_set_of_ne found (by simp) (by simp)]
    omega

/-- A producer that is told of its drop is counted with the answers from then on. -/
private theorem Counted.drop (counted : threads.Counted) {frame : Nat}
    (found : threads.offers[frame]? = some .counted) :
    Counted ({ threads with released := threads.released ++ [frame] }.reach frame
      (.answered .dropped)) := by
  have drops := counted.drops
  have fewer : (threads.offers.set frame (.answered .dropped)).count .counted + 1 =
      threads.offers.count .counted := count_set_add_one found (by simp)
  refine ⟨?_, counted.outcomes, ?_⟩
  · simp only [reach]
    rw [count_set_of_ne found (by simp) (by simp)]
    exact counted.taken
  · simp only [reach]
    rw [count_set_self found (by simp)]
    omega

private theorem Counted.count (counted : threads.Counted) {queued : Bool}
    (cleared : threads.relay.worker = .cleared queued) :
    Counted { threads with
      relay := { threads.relay with
        worker := .waiting, stats := Relay.countOutcome queued threads.relay.stats } } := by
  have outcomes := counted.outcomes
  have one := forwarded_add_failed_countOutcome queued threads.relay.stats
  rw [cleared] at outcomes
  refine ⟨counted.taken, ?_, (dropped_countOutcome queued _).trans counted.drops⟩
  simp only [RelayWorker.uncounted, RelayWorker.holds, Bool.toNat_true,
    Bool.toNat_false] at outcomes ⊢
  omega

private theorem Counted.move (counted : threads.Counted) (move : threads.Move after) :
    after.Counted := by
  cases move with
  | enter => exact ⟨by simpa using counted.taken, counted.outcomes, by simpa using counted.drops⟩
  | claim found idle =>
      exact counted.of_quiet found .claimed (by simp) (by simp) rfl rfl rfl rfl rfl
  | refuse found =>
      exact counted.of_quiet found .refused (by simp) (by simp) rfl rfl rfl rfl rfl
  | send found sending empty => exact counted.send found empty
  | fail found =>
      exact counted.of_quiet found .unsent (by simp) (by simp) rfl rfl rfl rfl rfl
  | lower found =>
      exact counted.of_quiet found .refused (by simp) (by simp) rfl rfl rfl rfl rfl
  | countDropped found => exact counted.countDropped found
  | drop found => exact counted.drop found
  | receive waiting sent => exact counted.of_worker rfl rfl rfl (by rw [waiting, sent]; rfl)
  | stop waiting empty severed => exact counted.of_worker rfl rfl rfl (by rw [waiting]; rfl)
  | write queued forwarding => exact counted.of_worker rfl rfl rfl (by rw [forwarding]; rfl)
  | release written => exact counted.of_worker rfl rfl rfl (by rw [written]; rfl)
  | clear forwarded => exact counted.of_worker rfl rfl rfl (by rw [forwarded]; rfl)
  | count cleared => exact counted.count cleared
  | beginShutdown => exact counted.of_worker rfl rfl rfl rfl
  | sever => exact counted.of_worker rfl rfl rfl rfl
  | takeHandle => exact counted.of_worker rfl rfl rfl rfl
  | leave => exact counted.of_worker rfl rfl rfl rfl
  | join => exact counted.of_worker rfl rfl rfl rfl

/-! ## Every order of steps -/

structure Sound (threads : RelayThreads) : Prop where
  token : threads.holders = threads.relay.busy.toNat
  ordered : threads.Ordered
  settled : threads.Settled
  counted : threads.Counted

private theorem sound_initial : Sound {} where
  token := rfl
  ordered := ⟨rfl, by simp, by simp⟩
  settled := ⟨by simp, List.nodup_nil, by simp [underWay, RelayWorker.unreleased], by simp,
    List.nodup_nil⟩
  counted := ⟨rfl, rfl, rfl⟩

private theorem Sound.move (sound : threads.Sound) (move : threads.Move after) : after.Sound where
  token := holders_move move sound.token
  ordered := sound.ordered.move move
  settled := sound.settled.move sound.token move
  counted := sound.counted.move move

private theorem sound_of_run {actions : List RelayAction} (ran : run {} actions = some threads) :
    threads.Sound :=
  run_of_moves (motive := Sound) (fun _ _ move sound => sound.move move) ran sound_initial

private theorem answered_move (move : threads.Move after) {frame : Nat} {answer : Offer}
    (answered : threads.offers[frame]? = some (.answered answer)) :
    after.offers[frame]? = some (.answered answer) := by
  have kept {place : Nat} {before : OfferProgress} (found : threads.offers[place]? = some before)
      (progress : OfferProgress) (old : before ≠ .answered answer) :
      (threads.offers.set place progress)[frame]? = some (.answered answer) := by
    have different : place ≠ frame := by
      rintro rfl
      rw [found] at answered
      exact old (Option.some.inj answered)
    rw [List.getElem?_set_ne different]
    exact answered
  cases move with
  | enter =>
      obtain ⟨inside, _⟩ := List.getElem?_eq_some_iff.mp answered
      change (threads.offers ++ [.entering])[frame]? = _
      rw [List.getElem?_append_left inside]
      exact answered
  | claim found => exact kept found _ (by simp)
  | refuse found => exact kept found _ (by simp)
  | send found => exact kept found _ (by simp)
  | fail found => exact kept found _ (by simp)
  | lower found => exact kept found _ (by simp)
  | countDropped found => exact kept found _ (by simp)
  | drop found => exact kept found _ (by simp)
  | _ => exact answered

namespace Sound

variable (sound : threads.Sound)
include sound

private theorem length_underWay_le : threads.underWay.length ≤ 1 := by
  have token := sound.token
  have bound := Bool.toNat_le threads.relay.busy
  have worker : threads.relay.worker.unreleased.length ≤ threads.relay.worker.holds.toNat := by
    cases threads.relay.worker <;> simp [RelayWorker.unreleased, RelayWorker.holds]
  unfold holders at token
  rw [underWay, List.length_append]
  omega

private theorem mem_underWay {frame : Nat} (accepted : frame ∈ threads.accepted)
    (unreleased : frame ∉ threads.released) : frame ∈ threads.underWay := by
  by_contra gone
  exact unreleased ((sound.settled.freed frame).mpr (.inr ⟨accepted, gone⟩))

private theorem written_prefix : threads.written <+: threads.accepted :=
  ⟨_, sound.ordered.order.symm⟩

private theorem not_mem_written {frame : Nat}
    (dropped : threads.offers[frame]? = some (.answered .dropped)) :
    frame ∉ threads.written := by
  intro member
  have accepted := (sound.settled.answered frame).mp (sound.written_prefix.subset member)
  rw [dropped] at accepted
  cases accepted

end Sound

/-- The state after all offers returned and the worker was joined. -/
structure Finished (threads : RelayThreads) : Prop where
  released : ∀ frame < threads.offers.length, frame ∈ threads.released
  written : ∀ frame, threads.offers[frame]? = some (.answered .accepted) →
    frame ∈ threads.written
  idle : threads.relay.busy = false
  outcomes : threads.relay.stats.forwarded + threads.relay.stats.failed =
    threads.offers.count (.answered .accepted)
  drops : threads.relay.stats.dropped = threads.offers.count (.answered .dropped)

private theorem Sound.finished (sound : threads.Sound)
    (returned : ∀ offer ∈ threads.offers, ∃ answer, offer = .answered answer)
    (joined : .returned true ∈ threads.shutdowns) : threads.Finished := by
  have stopped := sound.ordered.joined joined
  obtain ⟨empty, _⟩ := sound.ordered.ended stopped
  have under : threads.underWay = [] := by
    simp [underWay, stopped, empty, RelayWorker.unreleased]
  have noProducer : threads.offers.countP OfferProgress.holds = 0 := by
    rw [List.countP_eq_zero]
    intro offer member
    obtain ⟨answer, rfl⟩ := returned offer member
    simp [OfferProgress.holds]
  have noneCounted : threads.offers.count .counted = 0 := by
    rw [List.count_eq_zero]
    intro member
    obtain ⟨answer, equal⟩ := returned .counted member
    cases equal
  refine ⟨?_, ?_, ?_, ?_, ?_⟩
  · intro frame inside
    obtain ⟨answer, answered⟩ := returned threads.offers[frame] (List.getElem_mem inside)
    have found : threads.offers[frame]? = some (.answered answer) := by
      rw [List.getElem?_eq_getElem inside, answered]
    rw [sound.settled.freed, under]
    cases answer with
    | accepted => exact .inr ⟨(sound.settled.answered frame).mpr found, List.not_mem_nil⟩
    | dropped => exact .inl found
  · intro frame answered
    have order := sound.ordered.order
    rw [stopped, empty] at order
    have accepted := (sound.settled.answered frame).mpr answered
    rw [order] at accepted
    simpa [RelayWorker.unwritten] using accepted
  · have token := sound.token
    rw [holders, noProducer, stopped, empty] at token
    exact Bool.toNat_eq_zero.mp token.symm
  · have outcomes := sound.counted.outcomes
    rw [stopped, empty, sound.counted.taken] at outcomes
    exact outcomes
  · rw [sound.counted.drops, noneCounted, Nat.zero_add]

/-- However the steps of the threads are ordered: at most one accepted frame is not
released, a frame is never sent to a full slot, none is released or written twice, accepted
frames are written in the order of their acceptance, dropped ones never; and when all offers
and the call that joined the worker have returned, nothing is left over. -/
theorem run_sound {actions : List RelayAction} (ran : run {} actions = some threads) :
    (∀ first ∈ threads.accepted, ∀ second ∈ threads.accepted, first ∉ threads.released →
        second ∉ threads.released → first = second) ∧
      (∀ frame : Nat, threads.offers[frame]? = some .claimed → threads.relay.slot = none) ∧
      threads.released.Nodup ∧
      (∀ frame, frame ∈ threads.accepted ↔
        threads.offers[frame]? = some (.answered .accepted)) ∧
      threads.accepted.Nodup ∧ threads.written <+: threads.accepted ∧
      (∀ frame : Nat, threads.offers[frame]? = some (.answered .dropped) →
        ∀ later after, threads.run later = some after → frame ∉ after.written) ∧
      ((∀ offer ∈ threads.offers, ∃ answer, offer = .answered answer) →
        .returned true ∈ threads.shutdowns → threads.Finished) := by
  have sound := sound_of_run ran
  refine ⟨?_, ?_, sound.settled.once, sound.settled.answered, sound.settled.distinct,
    sound.written_prefix, ?_, sound.finished⟩
  · intro first firstAccepted second secondAccepted firstUnreleased secondUnreleased
    have firstMember := sound.mem_underWay firstAccepted firstUnreleased
    have secondMember := sound.mem_underWay secondAccepted secondUnreleased
    have few := sound.length_underWay_le
    match threads.underWay, firstMember, secondMember, few with
    | [only], firstMember, secondMember, _ =>
        rw [List.mem_singleton.mp firstMember, List.mem_singleton.mp secondMember]
  · intro frame claimed
    exact (idle_of_claimed sound.token claimed rfl).1
  · intro frame dropped later after went
    have soundAfter := sound_of_run (run_append ran went)
    apply soundAfter.not_mem_written
    exact run_of_moves (motive := fun threads =>
      threads.offers[frame]? = some (.answered .dropped))
      (fun _ _ move answered => answered_move move answered) went dropped

def crossing : List RelayAction :=
  [.offer, .offer, .advance 0, .advance 1, .advance 0, .work true, .shutdown, .advance 1,
    .advance 1, .proceed 0, .offer, .work true, .work true, .work true, .advance 2, .work true,
    .advance 2, .work true, .proceed 0, .advance 2, .advance 2, .advance 2, .proceed 0]

theorem run_sound_crossing :
    ∃ threads, run {} crossing = some threads ∧ threads.written = [0] ∧
      threads.released = [1, 0, 2] ∧ threads.Finished := by
  have ran : run {} crossing = some
      { relay := { sending := false, worker := .stopped, stats := ⟨1, 2, 0⟩ }
        offers := [.answered .accepted, .answered .dropped, .answered .dropped]
        accepted := [0]
        written := [0]
        released := [1, 0, 2]
        shutdowns := [.returned true]
        joinable := false } := by decide +kernel
  obtain ⟨_, _, _, _, _, _, _, finished⟩ := run_sound ran
  exact ⟨_, ran, rfl, rfl, finished (by simp) (by simp)⟩

end RelayThreads

end EyesFree
