import EyesFree.PacingRun
import EyesFree.Program.Simulation
import EyesFree.Proofs.Run
import Mathlib.Data.List.Chain

namespace EyesFree

/-! How a pacer spaces its ticks. Whether a tick is due and how long it is until the next
one are computed apart, but both compare the time with the same moment, and nothing but a
tick that is taken moves it. -/

namespace Pacer

variable {pacer : Pacer} {interval : Nat} {times : List Nat}

structure InRange (pacer : Pacer) : Prop where
  interval : pacer.interval ≤ 1000000000
  last : ∀ last ∈ pacer.last, last < 0x8000000000000000

theorem inRange_ofRate (rate : UInt32) : (ofRate rate).InRange :=
  ⟨Nat.div_le_self _ _, nofun⟩

def earliest (pacer : Pacer) : Nat := (pacer.last.map (· + pacer.interval)).getD 0

private theorem earliest_le_iff {now : Nat} :
    pacer.earliest ≤ now ↔ ∀ last ∈ pacer.last, last + pacer.interval ≤ now := by
  unfold earliest
  cases pacer.last <;> simp

namespace InRange

private theorem earliest_lt (inRange : pacer.InRange) :
    pacer.earliest < 0x8000000000000000 + 1000000000 := by
  have short := inRange.interval
  cases since : pacer.last with
  | none => simp [earliest, since]
  | some last =>
      have early := inRange.last last since
      simp only [earliest, since, Option.map_some, Option.getD_some]
      omega

private theorem deadline_of_some (inRange : pacer.InRange) {last : Nat}
    (since : pacer.last = some last) :
    pacer.deadline = .ok (some (last + pacer.interval)) := by
  have early := inRange.last last since
  have short := inRange.interval
  have size : UInt64.size = 0x10000000000000000 := rfl
  simp only [deadline, since, addCounts, if_pos (show last + pacer.interval < UInt64.size by omega)]
  rfl

private theorem tick_eq (inRange : pacer.InRange) (now : Nat) :
    pacer.tick now = .ok (if pacer.earliest ≤ now then (true, { pacer with last := some now })
      else (false, pacer)) := by
  cases since : pacer.last with
  | none =>
      simp only [Pacer.tick, deadline, since, earliest, Option.map_none, Option.getD_none,
        Nat.zero_le, if_true]
      rfl
  | some last =>
      simp only [Pacer.tick, inRange.deadline_of_some since, earliest, since, Option.map_some,
        Option.getD_some, bind, Except.bind]
      split <;> rfl

private theorem remaining_eq (inRange : pacer.InRange) (now : Nat) :
    pacer.remaining now = .ok (pacer.earliest - now) := by
  cases since : pacer.last with
  | none =>
      simp only [Pacer.remaining, deadline, since, earliest, Option.map_none, Option.getD_none,
        Nat.zero_sub]
      rfl
  | some last =>
      simp only [Pacer.remaining, inRange.deadline_of_some since, earliest, since]
      rfl

private theorem ticked (inRange : pacer.InRange) {now : Nat} (early : now < 0x8000000000000000) :
    InRange { pacer with last := some now } :=
  ⟨inRange.interval, fun _ member => Option.some.inj member ▸ early⟩

/-- The times of a clock stay in range, and a tick is taken if it comes late enough. -/
theorem tick (inRange : pacer.InRange) {now : Nat} (early : now < 0x8000000000000000) :
    ∃ due after, pacer.tick now = .ok (due, after) ∧ after.InRange ∧
      ((∀ last ∈ pacer.last, last + pacer.interval ≤ now) →
        due = true ∧ after = { pacer with last := some now }) := by
  rw [inRange.tick_eq, ← earliest_le_iff]
  by_cases reached : pacer.earliest ≤ now
  · rw [if_pos reached]
    exact ⟨_, _, rfl, inRange.ticked early, fun _ => ⟨rfl, rfl⟩⟩
  · rw [if_neg reached]
    exact ⟨_, _, rfl, inRange, fun late => absurd late reached⟩

theorem remaining (inRange : pacer.InRange) (now : Nat) :
    ∃ wait, pacer.remaining now = .ok wait :=
  ⟨_, inRange.remaining_eq now⟩

end InRange

/-! ## Steps -/

private theorem InRange.perform_tick (inRange : pacer.InRange) (now : Nat) :
    perform (.tick now) pacer =
      ⟨if pacer.earliest ≤ now then { pacer with last := some now } else pacer, [],
        .ok (.ticked (decide (pacer.earliest ≤ now)))⟩ := by
  simp only [perform, Activity.bind_apply, Activity.read_apply, Activity.require_apply,
    inRange.tick_eq]
  by_cases reached : pacer.earliest ≤ now <;> simp [reached]

private theorem InRange.perform_remaining (inRange : pacer.InRange) (now : Nat) :
    perform (.remaining now) pacer = ⟨pacer, [], .ok (.remaining (pacer.earliest - now))⟩ := by
  simp only [perform, Activity.bind_apply, Activity.read_apply, Activity.require_apply,
    inRange.remaining_eq]
  rfl

def IsDue (pacer : Pacer) (now : Nat) : Prop :=
  (perform (.tick now) pacer).outcome = .ok (.ticked true)

private theorem InRange.isDue_iff (inRange : pacer.InRange) {now : Nat} :
    pacer.IsDue now ↔ pacer.earliest ≤ now := by
  simp [IsDue, inRange.perform_tick]

/-- What remains is the least time after which a tick is due. -/
theorem InRange.isDue_add_iff (inRange : pacer.InRange) {now more : Nat} :
    pacer.IsDue (now + more) ↔ pacer.earliest - now ≤ more := by
  rw [inRange.isDue_iff]
  omega

def taken (pacer : Pacer) (step : PacerStep) : List Nat :=
  match step, (perform step pacer).outcome with
  | .tick now, .ok (.ticked true) => [now]
  | _, _ => []

def ticks (pacer : Pacer) (steps : List PacerStep) : List Nat :=
  notedBy perform taken pacer steps

private theorem InRange.taken_tick (inRange : pacer.InRange) (now : Nat) :
    pacer.taken (.tick now) = if pacer.earliest ≤ now then [now] else [] := by
  by_cases reached : pacer.earliest ≤ now <;> simp [taken, inRange.perform_tick, reached]

private theorem InRange.state_of_untaken (inRange : pacer.InRange) {step : PacerStep}
    (untaken : pacer.taken step = []) : (perform step pacer).state = pacer := by
  cases step with
  | tick now =>
      rw [inRange.taken_tick] at untaken
      rw [inRange.perform_tick]
      by_cases reached : pacer.earliest ≤ now
      · simp [reached] at untaken
      · exact if_neg reached
  | remaining now => rw [inRange.perform_remaining]

private theorem InRange.stateAfter_of_idle (inRange : pacer.InRange) {steps : List PacerStep}
    (idle : pacer.ticks steps = []) : stateAfter perform pacer steps = pacer := by
  induction steps with
  | nil => rfl
  | cons step rest induction =>
      obtain ⟨untaken, others⟩ := List.append_eq_nil_iff.mp idle
      have same := inRange.state_of_untaken untaken
      rw [same] at others
      rw [stateAfter, same]
      exact induction others

/-! ## Runs -/

/-- Ticks that were taken are an interval apart, and the next one is due
after the last of them. -/
structure Paced (interval : Nat) (times : List Nat) (pacer : Pacer) : Prop where
  inRange : pacer.InRange
  steady : pacer.interval = interval
  last : pacer.last = times.getLast?
  spaced : times.IsChain fun earlier later => earlier + interval ≤ later

/-- The times at which ticks are asked for are those of a clock of 63 bits. -/
def Timely (steps : List PacerStep) : Prop :=
  ∀ now, .tick now ∈ steps → now < 0x8000000000000000

private theorem Paced.step (paced : Paced interval times pacer) {step : PacerStep}
    (timely : Timely [step]) :
    Paced interval (times ++ pacer.taken step) (perform step pacer).state ∧
      ∃ reply, (perform step pacer).outcome = .ok reply := by
  obtain ⟨inRange, steady, last, spaced⟩ := paced
  cases step with
  | remaining now =>
      have untaken : pacer.taken (.remaining now) = [] := rfl
      rw [untaken, List.append_nil, inRange.perform_remaining]
      exact ⟨⟨inRange, steady, last, spaced⟩, _, rfl⟩
  | tick now =>
      have early : now < 0x8000000000000000 := timely now (List.mem_singleton_self _)
      rw [inRange.taken_tick, inRange.perform_tick]
      refine ⟨?_, _, rfl⟩
      by_cases reached : pacer.earliest ≤ now
      · rw [if_pos reached, if_pos reached]
        refine ⟨inRange.ticked early, steady, List.getLast?_concat.symm, ?_⟩
        rw [earliest_le_iff, last, steady] at reached
        rw [List.isChain_append]
        refine ⟨spaced, List.isChain_singleton _, ?_⟩
        intro earlier member later only
        cases only
        exact reached earlier member
      · rw [if_neg reached, if_neg reached, List.append_nil]
        exact ⟨inRange, steady, last, spaced⟩

private theorem Paced.run (rate : UInt32) {steps : List PacerStep} (timely : Timely steps) :
    let start := ofRate rate
    Paced start.interval (start.ticks steps) (stateAfter perform start steps) := by
  intro start
  refine run_invariant perform (motive := fun steps pacer _ => Timely steps →
    Paced start.interval (start.ticks steps) pacer) ?initial ?further steps timely
  case initial =>
    intro _
    exact ⟨inRange_ofRate rate, rfl, rfl, List.isChain_nil⟩
  case further =>
    intro steps step state paced timely
    have before : Timely steps := fun now member => timely now (List.mem_append_left _ member)
    have last : Timely [step] := fun now member => timely now (List.mem_append_right _ member)
    rw [Pacer.ticks, notedBy_concat]
    exact ((paced before).step last).1

private theorem answered_of_timely (rate : UInt32) {steps : List PacerStep}
    (timely : Timely steps) :
    ∀ recorded ∈ runSteps perform (ofRate rate) steps,
      ∃ reply, recorded.outcome = .ok reply := by
  intro recorded member
  obtain ⟨place, found⟩ := List.mem_iff_getElem?.mp member
  rw [getElem?_runSteps] at found
  obtain ⟨step, stepFound, rfl⟩ := Option.map_eq_some_iff.mp found
  have before : Timely (steps.take place) := fun now member =>
    timely now (List.mem_of_mem_take member)
  have last : Timely [step] := fun now member => timely now
    (List.mem_singleton.mp member ▸ List.mem_of_getElem? stepFound)
  exact ((Paced.run rate before).step last).2

/-! ## Windows -/

private theorem add_length_mul_le {first top : Nat} {rest : List Nat}
    (spaced : (first :: rest).Pairwise fun earlier later => earlier + interval ≤ later)
    (below : ∀ tick ∈ first :: rest, tick ≤ top) : first + rest.length * interval ≤ top := by
  induction rest generalizing first with
  | nil => simpa using below
  | cons second rest induction =>
      obtain ⟨late, others⟩ := List.pairwise_cons.mp spaced
      have further := induction others fun tick member => below tick (.tail _ member)
      have next := late second List.mem_cons_self
      rw [List.length_cons, Nat.succ_mul]
      omega

/-- In a window of a given width there are at most as many ticks as intervals fit
into it, and one more. -/
theorem countP_window_le (spaced : times.IsChain fun earlier later => earlier + interval ≤ later)
    (positive : 0 < interval) (first width : Nat) :
    times.countP (fun tick => first ≤ tick ∧ tick ≤ first + width) ≤ width / interval + 1 := by
  have transitive : IsTrans Nat fun earlier later => earlier + interval ≤ later :=
    ⟨fun _ _ _ => by omega⟩
  have apart := (List.isChain_iff_pairwise.mp spaced).filter
    fun tick => first ≤ tick ∧ tick ≤ first + width
  rw [List.countP_eq_length_filter]
  cases inside : times.filter fun tick => first ≤ tick ∧ tick ≤ first + width with
  | nil => exact Nat.zero_le _
  | cons earliest rest =>
      have within : ∀ tick ∈ earliest :: rest, first ≤ tick ∧ tick ≤ first + width := by
        intro tick member
        rw [← inside] at member
        simpa using (List.mem_filter.mp member).2
      rw [inside] at apart
      have fits := add_length_mul_le apart fun tick member => (within tick member).2
      have low := (within earliest List.mem_cons_self).1
      have most : rest.length ≤ width / interval :=
        (Nat.le_div_iff_mul_le positive).mpr (by omega)
      exact Nat.succ_le_succ most

end Pacer

/-! ## The camera of a simulation -/

namespace Simulation

def Reading.time (reading : Reading) : Nat := reading.now.toInt.toNat

theorem Reading.time_lt (reading : Reading) : reading.time < 0x8000000000000000 := by
  have high := reading.now.toInt_lt
  unfold Reading.time
  omega

private theorem keeps_pacer_onWorld {α : Type}
    (inner : Activity (World (ReplayChannel Subscription)) Delivery α) :
    (onWorld inner).Keeps pacer := fun _ => rfl

private theorem letForward_eq (reading : Reading) (simulation : Simulation) :
    letForward reading simulation = ⟨{ simulation with
      world := if reading.forwarded then simulation.world.forwardFrame else simulation.world },
      [], .ok ()⟩ := by
  unfold letForward
  split <;> rfl

private theorem keeps_pacer_takeStill : takeStill.Keeps pacer := by
  refine .bind (fun _ => rfl) fun simulation => ?_
  split
  · exact .bind (keeps_pacer_onWorld _) fun _ _ => rfl
  · exact fun _ => rfl

private theorem keeps_pacer_produceFrame (now : Timestamp) : (produceFrame now).Keeps pacer :=
  .bind (fun _ => rfl) fun _ => .bind (fun _ => rfl) fun _ =>
    .bind (keeps_pacer_onWorld _) fun _ => .bind (keeps_pacer_onWorld _) fun _ =>
      .bind (keeps_pacer_onWorld _) fun _ => keeps_pacer_takeStill

private theorem advance_paced {simulation : Simulation} (inRange : simulation.pacer.InRange)
    (reading : Reading) :
    let performed := advance reading simulation
    performed.state.pacer = (Pacer.perform (.tick reading.time) simulation.pacer).state ∧
      ∀ wait, performed.outcome = .ok (some wait) ↔
        ¬simulation.pacer.earliest ≤ reading.time ∧
          wait = simulation.pacer.earliest - reading.time := by
  intro performed
  let onward : Simulation := { simulation with
    world := if reading.forwarded then simulation.world.forwardFrame else simulation.world }
  have forwarded : letForward reading simulation = ⟨onward, [], .ok ()⟩ := letForward_eq _ _
  have asked : onward.pacer.tick reading.now.toInt.toNat = _ := inRange.tick_eq reading.time
  rw [inRange.perform_tick]
  by_cases reached : simulation.pacer.earliest ≤ reading.time
  · rw [if_pos reached] at asked ⊢
    let ticked : Simulation :=
      { onward with pacer := { simulation.pacer with last := some reading.time } }
    have equal : performed = (produceFrame reading.now >>= fun _ => pure none) ticked := by
      simp only [performed, advance, Activity.bind_apply, forwarded, Activity.read_apply, asked,
        Activity.require_apply, Activity.modify_apply, if_true, List.nil_append]
      rfl
    rw [equal, Activity.bind_pure_apply]
    refine ⟨keeps_pacer_produceFrame _ ticked, fun wait => ?_⟩
    cases (produceFrame reading.now ticked).outcome <;> simp [Except.map, reached]
  · rw [if_neg reached] at asked ⊢
    have left := inRange.remaining_eq reading.time
    have equal : performed =
        ⟨onward, [], .ok (some (simulation.pacer.earliest - reading.time))⟩ := by
      simp only [performed, advance, Activity.bind_apply, forwarded, Activity.read_apply, asked,
        Activity.require_apply, Activity.modify_apply, Bool.false_eq_true, if_false,
        List.nil_append]
      rw [Reading.time] at left
      rw [left]
      rfl
    rw [equal]
    refine ⟨rfl, fun wait => ?_⟩
    simp [reached, eq_comm]

private theorem timely_ticks (past : List Reading) :
    Pacer.Timely (past.map fun reading => .tick reading.time) := by
  intro now member
  obtain ⟨reading, _, asked⟩ := List.mem_map.mp member
  cases asked
  exact reading.time_lt

private theorem pacer_after (rate : UInt32) {simulation : Simulation}
    (fresh : simulation.pacer = .ofRate rate) (past : List Reading) :
    (stateAfter advance simulation past).pacer =
      stateAfter Pacer.perform (.ofRate rate) (past.map fun reading => .tick reading.time) := by
  refine run_invariant advance (motive := fun past reached _ => reached.pacer =
    stateAfter Pacer.perform (.ofRate rate) (past.map fun reading => .tick reading.time))
    fresh ?_ past
  intro past reading reached same
  have paced := Pacer.Paced.run rate (timely_ticks past)
  rw [List.map_append, List.map_singleton, stateAfter_concat, ← same]
  exact (advance_paced (same ▸ paced.inRange) reading).1

end Simulation

/-! ## Pacing -/

/-- Asked at any times, in whatever order, a pacer always answers. The ticks that it takes
are an interval apart, so that a window holds one more than there are intervals in it at
most. It tells how long it is exactly until a tick is due; asking for that, or for a tick
that is not taken, makes no difference to anything later. So a simulation waits exactly if
no frame is due, and until one is. -/
theorem pacing_exact (rate : UInt32) {steps : List PacerStep} (timely : Pacer.Timely steps) :
    let start := Pacer.ofRate rate
    let pacer := stateAfter Pacer.perform start steps
    let ticks := start.ticks steps
    (∀ recorded ∈ runSteps Pacer.perform start steps,
      ∃ reply, recorded.outcome = .ok reply) ∧
    (ticks.IsChain fun earlier later => earlier + start.interval ≤ later) ∧
    (0 < start.interval → ∀ first width,
      ticks.countP (fun tick => first ≤ tick ∧ tick ≤ first + width) ≤
        width / start.interval + 1) ∧
    (∀ now < 0x8000000000000000, ∃ wait,
      (Pacer.perform (.remaining now) pacer).outcome = .ok (.remaining wait) ∧
        now + wait < UInt64.size ∧ (∀ more, pacer.IsDue (now + more) ↔ wait ≤ more) ∧
        (wait = 0 ↔ pacer.IsDue now)) ∧
    (∀ idle later, pacer.ticks idle = [] →
      runSteps Pacer.perform (stateAfter Pacer.perform pacer idle) later =
        runSteps Pacer.perform pacer later) ∧
    ∀ simulation : Simulation, simulation.pacer = start → ∀ past reading,
      let before := stateAfter Simulation.advance simulation past
      let performed := Simulation.advance reading before
      before.pacer = stateAfter Pacer.perform start (past.map fun reading => .tick reading.time) ∧
        ((∃ wait, performed.outcome = .ok (some wait)) ↔ ¬before.pacer.IsDue reading.time) ∧
        ∀ wait, performed.outcome = .ok (some wait) →
          ∀ more, performed.state.pacer.IsDue (reading.time + more) ↔ wait ≤ more := by
  intro start pacer ticks
  have paced : Pacer.Paced start.interval ticks pacer := Pacer.Paced.run rate timely
  have inRange := paced.inRange
  refine ⟨Pacer.answered_of_timely rate timely, paced.spaced,
    fun positive => Pacer.countP_window_le paced.spaced positive, ?waits, ?idles, ?simulates⟩
  case waits =>
    intro now early
    have soon := inRange.earliest_lt
    have size : UInt64.size = 0x10000000000000000 := rfl
    refine ⟨pacer.earliest - now, congrArg Performed.outcome (inRange.perform_remaining now),
      by omega, fun more => inRange.isDue_add_iff, ?_⟩
    rw [inRange.isDue_iff]
    omega
  case idles =>
    intro idle later untaken
    rw [inRange.stateAfter_of_idle untaken]
  case simulates =>
    intro simulation fresh past reading before performed
    have reached := Simulation.pacer_after rate fresh past
    have paced := Pacer.Paced.run rate (Simulation.timely_ticks past)
    have inRange : before.pacer.InRange := reached ▸ paced.inRange
    obtain ⟨asked, waits⟩ := Simulation.advance_paced inRange reading
    refine ⟨reached, ?_, ?_⟩
    · rw [inRange.isDue_iff]
      simp only [performed, waits, exists_and_left, exists_eq, and_true]
    · intro wait awaited more
      obtain ⟨early, rfl⟩ := (waits wait).mp awaited
      have same : performed.state.pacer = before.pacer := by
        rw [asked, inRange.perform_tick]
        exact if_neg early
      rw [same]
      exact inRange.isDue_add_iff

/-- A rate of sixty, asked twice too early; and the same rate in a simulation. -/
theorem pacing_exact_sixty :
    let steps : List PacerStep :=
      [.tick 5, .tick 4, .tick 1000000, .remaining 1000000, .tick 16666671]
    let pacer := stateAfter Pacer.perform (.ofRate 60) steps
    let world : World (ReplayChannel Subscription) :=
      ⟨.new (.eyesFree (.ofExtent 4000 3000)) ⟨4, "relay"⟩, {}, {}⟩
    let simulation : Simulation := ⟨{}, 0, world, 0, .ofRate 60, 0, 0, 0, 0⟩
    let started := stateAfter Simulation.advance simulation [⟨5, false⟩]
    Pacer.Timely steps ∧ (Pacer.ofRate 60).ticks steps = [5, 16666671] ∧
      (∃ wait, (Pacer.perform (.remaining 20000000) pacer).outcome = .ok (.remaining wait) ∧
        ∀ more, pacer.IsDue (20000000 + more) ↔ wait ≤ more) ∧
      (Simulation.advance ⟨1000000, true⟩ started).outcome = .ok (some 15666671) ∧
      ∀ more, (Simulation.advance ⟨1000000, true⟩ started).state.pacer.IsDue (1000000 + more) ↔
        15666671 ≤ more := by
  intro steps pacer world simulation started
  have timely : Pacer.Timely steps := by simp [Pacer.Timely, steps]
  obtain ⟨_, _, _, waits, _, simulates⟩ := pacing_exact 60 timely
  obtain ⟨wait, answered, _, exact, _⟩ := waits 20000000 (by decide)
  obtain ⟨_, _, awaits⟩ := simulates simulation rfl [⟨5, false⟩] ⟨1000000, true⟩
  have awaited : (Simulation.advance ⟨1000000, true⟩ started).outcome = .ok (some 15666671) := by
    decide +kernel
  exact ⟨timely, by decide +kernel, ⟨wait, answered, exact⟩, awaited, awaits _ awaited⟩

end EyesFree
