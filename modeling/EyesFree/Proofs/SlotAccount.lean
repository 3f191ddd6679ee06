import EyesFree.Preview.WriterRun
import EyesFree.Proofs.Run
import Mathlib.Data.List.Nodup
import Mathlib.Data.List.ReduceOption

namespace EyesFree

/-! What becomes of the outputs whose writers go through the shared slot. Each of them is
closed when it leaves the slot and not before or again, and it receives the frames that are
queued while it is there, so that there is none after it was closed. -/

/-! ## Outputs by place -/

namespace Surfaces

variable {surfaces : Surfaces} {output : Nat}

private theorem output?_updateOutput (output other : Nat) (change : Output → Output)
    (surfaces : Surfaces) :
    (surfaces.updateOutput output change).output? other =
      if other = output then (surfaces.output? other).map change else surfaces.output? other := by
  simp only [output?, updateOutput]
  split
  next same => exact same ▸ List.getElem?_modify_eq _ _ _
  next different => rw [List.getElem?_modify_ne _ _ (Ne.symm different)]

private theorem length_outputs_updateOutput (output : Nat) (change : Output → Output)
    (surfaces : Surfaces) :
    (surfaces.updateOutput output change).outputs.length = surfaces.outputs.length :=
  List.length_modify ..

private theorem openOutput_eq_of_failing (failing : surfaces.failWriter = true)
    (surface : SurfaceId) :
    ∃ error, surfaces.openOutput surface = (.error error, surfaces) :=
  ⟨_, if_pos failing⟩

private theorem openOutput_eq (working : surfaces.failWriter = false) (surface : SurfaceId) :
    surfaces.openOutput surface =
      (.ok surfaces.outputs.length,
        { surfaces with outputs := surfaces.outputs ++ [{ surface }] }) := by
  simp [openOutput, working]

private theorem output?_opened {surface : SurfaceId} {target : Output}
    (found : Surfaces.output? { surfaces with outputs := surfaces.outputs ++ [{ surface }] }
      output = some target) :
    surfaces.output? output = some target ∨
      output = surfaces.outputs.length ∧ target = { surface } := by
  simp only [output?, List.getElem?_append, List.getElem?_singleton] at found ⊢
  split at found
  next => exact .inl found
  next late =>
    split at found
    next last =>
      cases found
      exact .inr ⟨by omega, rfl⟩
    next => cases found

private theorem exists_output? (opened : output < surfaces.outputs.length) :
    ∃ target, surfaces.output? output = some target :=
  ⟨_, List.getElem?_eq_getElem opened⟩

end Surfaces

namespace OutputSlot

private theorem output?_closeInstalled (slot : OutputSlot) (surfaces : Surfaces) (output : Nat) :
    (slot.closeInstalled surfaces).output? output =
      if slot.installed = some output then
        (surfaces.output? output).map fun target =>
          { target with closeCalls := target.closeCalls + 1 }
      else surfaces.output? output := by
  unfold closeInstalled
  cases slot.installed with
  | none => rfl
  | some installed =>
      refine (Surfaces.output?_updateOutput ..).trans ?_
      simp only [Option.some.injEq, eq_comm]

private theorem length_closeInstalled (slot : OutputSlot) (surfaces : Surfaces) :
    (slot.closeInstalled surfaces).outputs.length = surfaces.outputs.length := by
  unfold closeInstalled
  cases slot.installed with
  | none => rfl
  | some installed => exact Surfaces.length_outputs_updateOutput ..

private theorem queue_cases (slot : OutputSlot) (timestamp : Timestamp) (surfaces : Surfaces) :
    (∃ output target, slot.installed = some output ∧ surfaces.output? output = some target ∧
        target.abandoned = false ∧
        slot.queue timestamp surfaces = (.ok (), surfaces.updateOutput output fun target =>
          { target with queued := target.queued ++ [timestamp] })) ∨
      (∃ message, slot.queue timestamp surfaces = (.error (.surface message), surfaces)) ∧
        ∀ output target, slot.installed = some output → surfaces.output? output = some target →
          target.abandoned = true := by
  cases installed : slot.installed with
  | none => exact .inr ⟨⟨_, by rw [queue, installed]⟩, nofun⟩
  | some output =>
      cases found : surfaces.output? output with
      | none =>
          refine .inr ⟨⟨_, by simp only [queue, installed, Surfaces.queue, found]; rfl⟩, ?_⟩
          rintro _ target ⟨⟩ present
          cases found.symm.trans present
      | some target =>
          cases abandoned : target.abandoned with
          | true =>
              refine .inr ⟨⟨_, by
                simp only [queue, installed, Surfaces.queue, found, abandoned, if_true]; rfl⟩, ?_⟩
              rintro _ _ ⟨⟩ present
              cases found.symm.trans present
              exact abandoned
          | false =>
              refine .inl ⟨output, target, rfl, found, abandoned, ?_⟩
              simp only [queue, installed, Surfaces.queue, found, abandoned, Bool.false_eq_true,
                if_false]

end OutputSlot

/-! ## What is noted of a run -/

namespace WriterStage

/-- What a step puts into the slot: an output, or nothing in the place
of whatever was there. -/
def changed (stage : WriterStage) (step : WriterStep) : List (Option Nat) :=
  match step, (perform step stage).outcome with
  | .install output, .ok (.slot .done) => [some output]
  | .slot (.install _), .ok (.slot .done) => [some stage.surfaces.outputs.length]
  | .slot .release, _ => [none]
  | _, _ => []

def written (stage : WriterStage) (step : WriterStep) : List (Nat × Timestamp) :=
  match step, stage.slot.installed, (perform step stage).outcome with
  | .slot (.queue timestamp), some output, .ok (.slot .done) => [(output, timestamp)]
  | _, _, _ => []

def changes (steps : List WriterStep) : List (Option Nat) := notedBy perform changed {} steps

def installs (steps : List WriterStep) : List Nat := (changes steps).reduceOption

/-- The frames that some steps queue, each with the output that was in the slot then. -/
def writes (steps : List WriterStep) : List (Nat × Timestamp) := notedBy perform written {} steps

def after (steps : List WriterStep) : WriterStage := stateAfter perform {} steps

private theorem changes_concat (steps : List WriterStep) (step : WriterStep) :
    changes (steps ++ [step]) = changes steps ++ (after steps).changed step :=
  notedBy_concat _ _ _ _ _

private theorem writes_concat (steps : List WriterStep) (step : WriterStep) :
    writes (steps ++ [step]) = writes steps ++ (after steps).written step :=
  notedBy_concat _ _ _ _ _

private theorem after_concat (steps : List WriterStep) (step : WriterStep) :
    after (steps ++ [step]) = (perform step (after steps)).state :=
  stateAfter_concat _ _ _ _

/-! ## Moves -/

inductive Move (stage : WriterStage) : WriterStage → List (Option Nat) → List (Nat × Timestamp) →
    Prop
  | stay : Move stage stage [] []
  | failWriter (failing : Bool) :
      Move stage { stage with surfaces := { stage.surfaces with failWriter := failing } } [] []
  | openWriter (surface : SurfaceId) :
      Move stage { stage with
        surfaces := { stage.surfaces with outputs := stage.surfaces.outputs ++ [{ surface }] }
        atHand := stage.atHand ++ [stage.surfaces.outputs.length] } [] []
  | install {output} (present : output ∈ stage.atHand) :
      Move stage
        { slot := ⟨some output⟩
          surfaces := stage.slot.closeInstalled stage.surfaces
          atHand := stage.atHand.erase output } [some output] []
  /-- An output is opened and its writer is put into the slot at once. -/
  | openInstalled (surface : SurfaceId) :
      Move stage { stage with
        slot := ⟨some stage.surfaces.outputs.length⟩
        surfaces := stage.slot.closeInstalled
          { stage.surfaces with outputs := stage.surfaces.outputs ++ [{ surface }] } }
        [some stage.surfaces.outputs.length] []
  | release :
      Move stage { stage with
        slot := ⟨none⟩, surfaces := stage.slot.closeInstalled stage.surfaces } [none] []
  | queue {output target} (timestamp : Timestamp) (installed : stage.slot.installed = some output)
      (found : stage.surfaces.output? output = some target) (kept : target.abandoned = false) :
      Move stage { stage with
        surfaces := stage.surfaces.updateOutput output fun target =>
          { target with queued := target.queued ++ [timestamp] } } [] [(output, timestamp)]
  | abandon (output : Nat) :
      Move stage { stage with surfaces := stage.surfaces.abandon output } [] []

private theorem perform_queue (timestamp : Timestamp) (stage : WriterStage) :
    perform (.slot (.queue timestamp)) stage =
      match stage.slot.queue timestamp stage.surfaces with
      | (.ok _, surfaces) => ⟨{ stage with surfaces }, [], .ok (.slot .done)⟩
      | (.error error, surfaces) =>
          ⟨{ stage with surfaces }, [], .ok (.slot (.refused error))⟩ := by
  simp only [perform, Activity.step_apply, onSlot, SlotStage.perform]
  rcases stage.slot.queue timestamp stage.surfaces with ⟨answer | answer, surfaces⟩ <;> rfl

private theorem move_onSlot (stage : WriterStage) (step : SlotStep) :
    stage.Move (perform (.slot step) stage).state (stage.changed (.slot step))
      (stage.written (.slot step)) := by
  cases step with
  | install surface =>
      cases failing : stage.surfaces.failWriter with
      | true =>
          obtain ⟨error, refused⟩ := Surfaces.openOutput_eq_of_failing failing surface
          simp only [perform, Activity.step_apply, onSlot, SlotStage.perform, SlotStage.install,
            refused, changed, written]
          exact .stay
      | false =>
          have opened := Surfaces.openOutput_eq failing surface
          simp only [perform, Activity.step_apply, onSlot, SlotStage.perform, SlotStage.install,
            opened, changed, written]
          exact .openInstalled surface
  | queue timestamp =>
      simp only [changed, written, perform_queue]
      rcases stage.slot.queue_cases timestamp stage.surfaces with
        ⟨output, target, installed, found, kept, queued⟩ | ⟨⟨message, refused⟩, _⟩
      · rw [queued, installed]
        exact .queue timestamp installed found kept
      · rw [refused]
        cases stage.slot.installed <;> exact .stay
  | release => exact .release
  | failWriter failing => exact .failWriter failing
  | abandon output => exact .abandon output

private theorem move (stage : WriterStage) (step : WriterStep) :
    stage.Move (perform step stage).state (stage.changed step) (stage.written step) := by
  cases step with
  | openWriter surface =>
      cases failing : stage.surfaces.failWriter with
      | true =>
          obtain ⟨error, refused⟩ := Surfaces.openOutput_eq_of_failing failing surface
          simp only [perform, Activity.step_apply, openWriter, refused, changed, written]
          exact .stay
      | false =>
          have opened := Surfaces.openOutput_eq failing surface
          simp only [perform, Activity.step_apply, openWriter, opened, changed, written]
          exact .openWriter surface
  | install output =>
      simp only [perform, Activity.step_apply, install, changed, written]
      split
      next present => exact .install present
      next => exact .stay
  | slot step => exact stage.move_onSlot step

end WriterStage

/-! ## The account -/

/-- What the outputs show of the writers that were put into the slot and of the frames that
were queued: an output that left the slot was closed once, and the others were not. -/
structure WriterAccount (changes : List (Option Nat)) (writes : List (Nat × Timestamp))
    (stage : WriterStage) : Prop where
  slot : stage.slot.installed = changes.getLast?.join
  apart : (changes.reduceOption ++ stage.atHand).Nodup
  opened : ∀ output ∈ changes.reduceOption ++ stage.atHand,
    output < stage.surfaces.outputs.length
  addressed : ∀ write ∈ writes, write.1 ∈ changes.reduceOption
  closed : ∀ output target, stage.surfaces.output? output = some target →
    target.closeCalls =
      if output ∈ changes.reduceOption ∧ stage.slot.installed ≠ some output then 1 else 0
  queued : ∀ output target, stage.surfaces.output? output = some target →
    target.queued = (writes.filter (·.1 = output)).map (·.2)

namespace WriterAccount

variable {changes : List (Option Nat)} {writes : List (Nat × Timestamp)} {stage : WriterStage}

private theorem mem_of_installed (account : WriterAccount changes writes stage) {output : Nat}
    (installed : stage.slot.installed = some output) : output ∈ changes.reduceOption := by
  rw [account.slot] at installed
  rw [List.reduceOption_mem_iff]
  exact List.mem_of_getLast? (Option.join_eq_some_iff.mp installed)

/-- An output that was closed is one that left the slot, and it was closed once. -/
theorem left_of_closed (account : WriterAccount changes writes stage) {output : Nat}
    {target : Output} (found : stage.surfaces.output? output = some target)
    (closed : 0 < target.closeCalls) :
    (output ∈ changes.reduceOption ∧ stage.slot.installed ≠ some output) ∧
      target.closeCalls = 1 := by
  have counted := account.closed output target found
  split at counted
  next left => exact ⟨left, counted⟩
  next => omega

private theorem openWriter (account : WriterAccount changes writes stage) (surface : SurfaceId) :
    WriterAccount changes writes { stage with
      surfaces := { stage.surfaces with outputs := stage.surfaces.outputs ++ [{ surface }] }
      atHand := stage.atHand ++ [stage.surfaces.outputs.length] } := by
  let place := stage.surfaces.outputs.length
  have unused : place ∉ changes.reduceOption ++ stage.atHand := fun member =>
    Nat.lt_irrefl _ (account.opened place member)
  have never : place ∉ changes.reduceOption := fun member =>
    unused (List.mem_append_left _ member)
  exact {
    slot := account.slot
    apart := by
      rw [← List.append_assoc, ← List.concat_eq_append, List.nodup_concat]
      exact ⟨unused, account.apart⟩
    opened := by
      intro output member
      rw [← List.append_assoc, List.mem_append, List.mem_singleton] at member
      rw [List.length_append, List.length_singleton]
      rcases member with earlier | rfl
      · exact Nat.lt_succ_of_lt (account.opened output earlier)
      · exact Nat.lt_succ_self _
    addressed := account.addressed
    closed := by
      intro output target found
      rcases Surfaces.output?_opened found with before | ⟨rfl, rfl⟩
      · exact account.closed output target before
      · exact (if_neg fun both => never both.1).symm
    queued := by
      intro output target found
      rcases Surfaces.output?_opened found with before | ⟨rfl, rfl⟩
      · exact account.queued output target before
      · have none : writes.filter (·.1 = place) = [] := List.filter_eq_nil_iff.mpr
          fun write member same => never (of_decide_eq_true same ▸ account.addressed write member)
        rw [none]
        rfl }

private theorem change (account : WriterAccount changes writes stage) {next : Option Nat}
    {atHand : List Nat} (apart : ((changes ++ [next]).reduceOption ++ atHand).Nodup)
    (opened : ∀ output ∈ (changes ++ [next]).reduceOption ++ atHand,
      output < stage.surfaces.outputs.length) :
    WriterAccount (changes ++ [next]) writes
      { slot := ⟨next⟩, surfaces := stage.slot.closeInstalled stage.surfaces, atHand } := by
  have split : (changes ++ [next]).reduceOption = changes.reduceOption ++ next.toList := by
    cases next <;> simp [List.reduceOption_append, List.reduceOption_cons_of_none,
      List.reduceOption_cons_of_some]
  have other : ∀ output ∈ changes.reduceOption, next ≠ some output := by
    rintro output member rfl
    rw [split] at apart
    exact List.disjoint_of_nodup_append apart.of_append_left member (by simp)
  have mem : ∀ output, output ∈ (changes ++ [next]).reduceOption ↔
      output ∈ changes.reduceOption ∨ next = some output := by
    intro output
    rw [split, List.mem_append, Option.mem_toList]
  exact {
    slot := by rw [List.getLast?_concat]; rfl
    apart
    opened := by
      intro output member
      rw [OutputSlot.length_closeInstalled]
      exact opened output member
    addressed := fun write member => (mem _).mpr (.inl (account.addressed write member))
    closed := by
      intro output target found
      rw [OutputSlot.output?_closeInstalled] at found
      by_cases installed : stage.slot.installed = some output
      · rw [if_pos installed] at found
        obtain ⟨before, present, rfl⟩ := Option.map_eq_some_iff.mp found
        have member := account.mem_of_installed installed
        have unclosed := account.closed output before present
        rw [if_neg fun both => both.2 installed] at unclosed
        rw [if_pos ⟨(mem output).mpr (.inl member), other output member⟩, unclosed]
      · rw [if_neg installed] at found
        rw [account.closed output target found]
        have same : output ∈ changes.reduceOption ∧ stage.slot.installed ≠ some output ↔
            output ∈ (changes ++ [next]).reduceOption ∧ next ≠ some output := by
          rw [mem]
          constructor
          · exact fun ⟨member, _⟩ => ⟨.inl member, other output member⟩
          · exact fun ⟨member, elsewhere⟩ => ⟨member.resolve_right elsewhere, installed⟩
        simp only [same]
    queued := by
      intro output target found
      rw [OutputSlot.output?_closeInstalled] at found
      split at found
      · obtain ⟨before, present, rfl⟩ := Option.map_eq_some_iff.mp found
        exact account.queued output before present
      · exact account.queued output target found }

private theorem update (account : WriterAccount changes writes stage) {output : Nat}
    {change : Output → Output} (frames : List Timestamp)
    (installed : frames ≠ [] → stage.slot.installed = some output)
    (closes : ∀ target, (change target).closeCalls = target.closeCalls)
    (queues : ∀ target, (change target).queued = target.queued ++ frames) :
    WriterAccount changes (writes ++ frames.map (output, ·))
      { stage with surfaces := stage.surfaces.updateOutput output change } where
  slot := account.slot
  apart := account.apart
  opened := by
    intro other member
    rw [Surfaces.length_outputs_updateOutput]
    exact account.opened other member
  addressed := by
    intro write member
    rcases List.mem_append.mp member with earlier | last
    · exact account.addressed write earlier
    · obtain ⟨frame, queued, rfl⟩ := List.mem_map.mp last
      exact account.mem_of_installed (installed (List.ne_nil_of_mem queued))
  closed := by
    intro other target found
    rw [Surfaces.output?_updateOutput] at found
    split at found
    · obtain ⟨before, present, rfl⟩ := Option.map_eq_some_iff.mp found
      rw [closes]
      exact account.closed other before present
    · exact account.closed other target found
  queued := by
    intro other target found
    rw [Surfaces.output?_updateOutput] at found
    rw [List.filter_append, List.map_append]
    split at found
    next same =>
      obtain ⟨before, present, rfl⟩ := Option.map_eq_some_iff.mp found
      rw [queues, account.queued other before present]
      simp [List.filter_map, Function.comp_def, same]
    next different =>
      rw [account.queued other target found]
      simp [List.filter_map, Function.comp_def, Ne.symm different]

private theorem move (account : WriterAccount changes writes stage) {after : WriterStage}
    {put : List (Option Nat)} {queued : List (Nat × Timestamp)}
    (move : stage.Move after put queued) :
    WriterAccount (changes ++ put) (writes ++ queued) after := by
  cases move with
  | stay => simpa using account
  | failWriter failing =>
      rw [List.append_nil, List.append_nil]
      exact { account with }
  | openWriter surface =>
      rw [List.append_nil, List.append_nil]
      exact account.openWriter surface
  | @install output present =>
      rw [List.append_nil]
      have moved : (changes.reduceOption ++ stage.atHand).Perm
          ((changes ++ [some output]).reduceOption ++ stage.atHand.erase output) := by
        rw [List.reduceOption_append, List.append_assoc]
        exact (List.perm_cons_erase present).append_left _
      exact account.change (moved.nodup account.apart) fun other member =>
        account.opened other (moved.mem_iff.mpr member)
  | openInstalled surface =>
      rw [List.append_nil]
      have account := account.openWriter surface
      let place := stage.surfaces.outputs.length
      have moved : (changes.reduceOption ++ (stage.atHand ++ [place])).Perm
          ((changes ++ [some place]).reduceOption ++ stage.atHand) := by
        rw [List.reduceOption_append, List.append_assoc]
        exact List.perm_append_comm.append_left _
      exact account.change (moved.nodup account.apart) fun other member =>
        account.opened other (moved.mem_iff.mpr member)
  | release =>
      rw [List.append_nil]
      have same : (changes ++ [none]).reduceOption = changes.reduceOption := by
        simp [List.reduceOption_append]
      exact account.change (same ▸ account.apart) (same ▸ account.opened)
  | queue timestamp installed found kept =>
      rw [List.append_nil]
      exact account.update [timestamp] (fun _ => installed) (fun _ => rfl) fun _ => rfl
  | abandon output =>
      rw [List.append_nil]
      exact account.update [] (absurd rfl) (fun _ => rfl) fun _ => (List.append_nil _).symm

private theorem run (steps : List WriterStep) :
    WriterAccount (WriterStage.changes steps) (WriterStage.writes steps)
      (WriterStage.after steps) := by
  induction steps using List.reverseRecOn with
  | nil => exact ⟨rfl, List.nodup_nil, nofun, nofun, nofun, nofun⟩
  | append_singleton steps step induction =>
      rw [WriterStage.changes_concat, WriterStage.writes_concat, WriterStage.after_concat]
      exact induction.move (WriterStage.move _ _)

end WriterAccount

/-! ## Outputs that left the slot -/

namespace WriterStage

variable {steps : List WriterStep} {output : Nat}

private theorem not_installed_later (left : output ∈ installs steps)
    (gone : (after steps).slot.installed ≠ some output) (later : List WriterStep) :
    (after (steps ++ later)).slot.installed ≠ some output := by
  have before := WriterAccount.run steps
  have account := WriterAccount.run (steps ++ later)
  let more := notedBy perform changed (after steps) later
  have split : changes (steps ++ later) = changes steps ++ more := notedBy_append ..
  have apart := account.apart.of_append_left
  rw [before.slot] at gone
  rw [split, List.reduceOption_append] at apart
  rw [account.slot, split]
  rcases List.eq_nil_or_concat more with none | ⟨others, last, some⟩
  · rwa [none, List.append_nil]
  · rw [List.concat_eq_append] at some
    rw [some, ← List.append_assoc, List.getLast?_concat]
    rintro rfl
    have again : output ∈ more.reduceOption := List.reduceOption_mem_iff.mpr (by simp [some])
    exact List.disjoint_of_nodup_append apart left again

private theorem writes_later (left : output ∈ installs steps)
    (gone : (after steps).slot.installed ≠ some output) (later : List WriterStep) :
    (writes (steps ++ later)).filter (·.1 = output) = (writes steps).filter (·.1 = output) := by
  induction later using List.reverseRecOn with
  | nil => rw [List.append_nil]
  | append_singleton later step induction =>
      rw [← List.append_assoc, writes_concat, List.filter_append, induction]
      have elsewhere := not_installed_later left gone later
      have silent : ((after (steps ++ later)).written step).filter (·.1 = output) = [] := by
        rw [List.filter_eq_nil_iff]
        intro write member same
        obtain rfl := of_decide_eq_true same
        unfold written at member
        split at member
        next installed _ =>
          rw [List.mem_singleton.mp member] at elsewhere
          exact elsewhere installed
        next => cases member
      rw [silent, List.append_nil]

end WriterStage

/-- Whatever is done with the slot, every output whose writer was put into it is closed once
it has left the slot and never again, and the one that is in it is open. Releasing tells
whether there was a writer. A frame that is queued goes to the output in the slot alone;
where there is none, or the client gave it up, nothing happens. So no output receives a
frame after it was closed. -/
theorem slot_accounted (steps : List WriterStep) :
    let stage := WriterStage.after steps
    let last := (WriterStage.changes steps).getLast?
    (WriterStage.installs steps).Nodup ∧
    (∀ output ∈ WriterStage.installs steps, ∃ target,
      stage.surfaces.output? output = some target ∧
        target.closeCalls = if last = some (some output) then 0 else 1) ∧
    (∀ output, stage.slot.installed = some output ↔ last = some (some output)) ∧
    (∃ installed, (WriterStage.perform (.slot .release) stage).outcome =
        .ok (.slot (.released installed)) ∧
      (installed = true ↔ ∃ output, last = some (some output))) ∧
    (∀ output target, stage.surfaces.output? output = some target →
      target.queued = ((WriterStage.writes steps).filter (·.1 = output)).map (·.2)) ∧
    (∀ timestamp,
      let performed := WriterStage.perform (.slot (.queue timestamp)) stage
      (performed.outcome = .ok (.slot .done) ∧ ∃ output target,
        last = some (some output) ∧ stage.surfaces.output? output = some target ∧
          target.abandoned = false ∧
          performed.state = { stage with
            surfaces := stage.surfaces.updateOutput output fun target =>
              { target with queued := target.queued ++ [timestamp] } }) ∨
      (∃ error, performed.outcome = .ok (.slot (.refused error))) ∧ performed.state = stage ∧
        ∀ output, last = some (some output) → ∃ target,
          stage.surfaces.output? output = some target ∧ target.abandoned = true) ∧
    ∀ output target later, stage.surfaces.output? output = some target →
      0 < target.closeCalls → ∃ final,
        (WriterStage.after (steps ++ later)).surfaces.output? output = some final ∧
          final.queued = target.queued ∧ final.closeCalls = target.closeCalls := by
  intro stage last
  have account : WriterAccount (WriterStage.changes steps) (WriterStage.writes steps) stage :=
    WriterAccount.run steps
  have holds : ∀ output, stage.slot.installed = some output ↔ last = some (some output) := by
    intro output
    rw [account.slot, Option.join_eq_some_iff]
  refine ⟨account.apart.of_append_left, ?closes, holds, ?releases, account.queued, ?queues,
    ?settles⟩
  case closes =>
    intro output put
    obtain ⟨target, found⟩ := Surfaces.exists_output?
      (account.opened output (List.mem_append_left _ put))
    refine ⟨target, found, ?_⟩
    have member : output ∈ (WriterStage.changes steps).reduceOption := put
    simp [account.closed output target found, member, ← holds]
  case releases =>
    refine ⟨stage.slot.isInstalled, rfl, ?_⟩
    simp only [OutputSlot.isInstalled, Option.isSome_iff_exists, holds]
  case queues =>
    intro timestamp performed
    simp only [performed, WriterStage.perform_queue, ← holds]
    rcases stage.slot.queue_cases timestamp stage.surfaces with
      ⟨output, target, installed, found, kept, queued⟩ | ⟨⟨message, refused⟩, given⟩
    · rw [queued]
      exact .inl ⟨rfl, output, target, installed, found, kept, rfl⟩
    · rw [refused]
      refine .inr ⟨⟨_, rfl⟩, rfl, fun output installed => ?_⟩
      have put := account.mem_of_installed installed
      obtain ⟨target, found⟩ := Surfaces.exists_output?
        (account.opened output (List.mem_append_left _ put))
      exact ⟨target, found, given output target installed found⟩
  case settles =>
    intro output target later found closed
    obtain ⟨⟨left, gone⟩, once⟩ := account.left_of_closed found closed
    have finished := WriterAccount.run (steps ++ later)
    have stillLeft : output ∈ (WriterStage.changes (steps ++ later)).reduceOption := by
      rw [WriterStage.changes, notedBy_append, List.reduceOption_append]
      exact List.mem_append_left _ left
    obtain ⟨final, present⟩ := Surfaces.exists_output?
      (finished.opened output (List.mem_append_left _ stillLeft))
    refine ⟨final, present, ?_, ?_⟩
    · rw [finished.queued output final present, WriterStage.writes_later left gone later,
        account.queued output target found]
    · rw [finished.closed output final present,
        if_pos ⟨stillLeft, WriterStage.not_installed_later left gone later⟩, once]

/-- Two writers at hand, of which the second one that was opened is put into the slot first;
its output is given up, and the other one takes its place. -/
theorem slot_accounted_overtaken :
    let steps : List WriterStep := [.openWriter 1, .openWriter 2, .install 1, .slot (.queue 5),
      .slot (.abandon 1), .slot (.queue 6), .install 0, .slot (.queue 7)]
    ((WriterStage.after steps).surfaces.outputs.map fun output =>
        (output.queued, output.closeCalls)) = [([7], 0), ([5], 1)] ∧
      WriterStage.installs steps = [1, 0] ∧ WriterStage.writes steps = [(1, 5), (0, 7)] ∧
      ∀ later, ∃ final, (WriterStage.after (steps ++ later)).surfaces.output? 1 = some final ∧
        final.queued = [5] ∧ final.closeCalls = 1 := by
  intro steps
  obtain ⟨_, _, _, _, _, _, settles⟩ := slot_accounted steps
  exact ⟨by decide, by decide, by decide, fun later =>
    settles 1 { surface := 2, queued := [5], abandoned := true, closeCalls := 1 } later (by decide)
      (by decide)⟩

end EyesFree
