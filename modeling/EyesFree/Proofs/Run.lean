import EyesFree.Activity
import Mathlib.Data.List.Induction

namespace EyesFree

namespace Activity

variable {σ τ ε α β : Type} {part : σ → τ}

/-- An activity leaves a part of the state as it is, also when it ends with a fault. -/
def Keeps (part : σ → τ) (activity : Activity σ ε α) : Prop :=
  ∀ state, part (activity state).state = part state

theorem Keeps.bind {first : Activity σ ε α} {next : α → Activity σ ε β} (kept : Keeps part first)
    (rest : ∀ value, Keeps part (next value)) : Keeps part (first >>= next) := by
  intro state
  have before := kept state
  rw [bind_apply]
  rcases performed : first state with ⟨after, emitted, value | value⟩
  · rw [performed] at before
    exact before
  · rw [performed] at before
    exact (rest value after).trans before

end Activity

/-! What a run leaves behind: the state after its steps, and all that they
emitted. An invariant of a run is proved once for its beginning and once for a
step that is added at its end. -/

section

variable {σ ε α β : Type} (perform : α → Activity σ ε β)

def stateAfter : σ → List α → σ
  | state, [] => state
  | state, step :: rest => stateAfter (perform step state).state rest

def emittedBy (state : σ) (steps : List α) : List ε :=
  (runSteps perform state steps).flatMap (·.emitted)

@[simp] theorem stateAfter_nil (state : σ) : stateAfter perform state [] = state := rfl

@[simp] theorem emittedBy_nil (state : σ) : emittedBy perform state [] = [] := rfl

theorem emittedBy_cons (state : σ) (step : α) (rest : List α) :
    emittedBy perform state (step :: rest) =
      (perform step state).emitted ++ emittedBy perform (perform step state).state rest := rfl

theorem stateAfter_append (state : σ) (first second : List α) :
    stateAfter perform state (first ++ second) =
      stateAfter perform (stateAfter perform state first) second := by
  induction first generalizing state with
  | nil => rfl
  | cons step rest induction => exact induction _

theorem runSteps_append (state : σ) (first second : List α) :
    runSteps perform state (first ++ second) =
      runSteps perform state first ++
        runSteps perform (stateAfter perform state first) second := by
  induction first generalizing state with
  | nil => rfl
  | cons step rest induction =>
      simp only [List.cons_append, runSteps, stateAfter]
      rw [induction]

theorem length_runSteps (state : σ) (steps : List α) :
    (runSteps perform state steps).length = steps.length := by
  induction steps generalizing state with
  | nil => rfl
  | cons step rest induction => exact congrArg (· + 1) (induction _)

theorem emittedBy_append (state : σ) (first second : List α) :
    emittedBy perform state (first ++ second) =
      emittedBy perform state first ++
        emittedBy perform (stateAfter perform state first) second := by
  simp [emittedBy, runSteps_append]

theorem stateAfter_concat (state : σ) (steps : List α) (step : α) :
    stateAfter perform state (steps ++ [step]) =
      (perform step (stateAfter perform state steps)).state := by
  rw [stateAfter_append]
  rfl

theorem emittedBy_concat (state : σ) (steps : List α) (step : α) :
    emittedBy perform state (steps ++ [step]) =
      emittedBy perform state steps ++
        (perform step (stateAfter perform state steps)).emitted := by
  simp [emittedBy, runSteps_append, runSteps]

theorem stateAfter_of_preserved {motive : σ → Prop}
    (preserved : ∀ state step, motive state → motive (perform step state).state) {state : σ}
    (initial : motive state) (steps : List α) : motive (stateAfter perform state steps) := by
  induction steps generalizing state with
  | nil => exact initial
  | cons step rest induction => exact induction (preserved state step initial)

/-- What is recorded about a step of a run is what it does in the state before it. -/
theorem getElem?_runSteps (state : σ) (steps : List α) (place : Nat) :
    (runSteps perform state steps)[place]? = steps[place]?.map fun step =>
      let performed := perform step (stateAfter perform state (steps.take place))
      ⟨performed.outcome, performed.emitted, performed.state⟩ := by
  induction steps generalizing state place with
  | nil => simp [runSteps]
  | cons step rest induction =>
      cases place with
      | zero => simp [runSteps]
      | succ place => simpa [runSteps, stateAfter] using induction _ place

theorem mem_emittedBy {state : σ} {steps : List α} {event : ε} :
    event ∈ emittedBy perform state steps ↔ ∃ place step, steps[place]? = some step ∧
      event ∈ (perform step (stateAfter perform state (steps.take place))).emitted := by
  rw [emittedBy, List.mem_flatMap]
  constructor
  · rintro ⟨recorded, member, told⟩
    obtain ⟨place, found⟩ := List.mem_iff_getElem?.mp member
    rw [getElem?_runSteps] at found
    obtain ⟨step, stepFound, rfl⟩ := Option.map_eq_some_iff.mp found
    exact ⟨place, step, stepFound, told⟩
  · rintro ⟨place, step, found, told⟩
    have recorded := getElem?_runSteps perform state steps place
    rw [found] at recorded
    exact ⟨_, List.mem_of_getElem? recorded, told⟩

/-- An invariant of the steps so far, the state and what was emitted holds of every run if
it holds at first and every further step keeps it. -/
theorem run_invariant {start : σ} {motive : List α → σ → List ε → Prop}
    (initial : motive [] start [])
    (preserved : ∀ steps step, let state := stateAfter perform start steps
      motive steps state (emittedBy perform start steps) →
        motive (steps ++ [step]) (perform step state).state
          (emittedBy perform start steps ++ (perform step state).emitted))
    (steps : List α) :
    motive steps (stateAfter perform start steps) (emittedBy perform start steps) := by
  induction steps using List.reverseRecOn with
  | nil => exact initial
  | append_singleton steps step induction =>
      rw [stateAfter_concat, emittedBy_concat]
      exact preserved steps step induction

end

/-! What is noted of the steps of a run. -/

section

variable {σ ε α β γ : Type} (perform : α → Activity σ ε β) (note : σ → α → List γ)

/-- What is noted of each step and the state before it, in order. -/
def notedBy : σ → List α → List γ
  | _, [] => []
  | state, step :: rest => note state step ++ notedBy (perform step state).state rest

theorem notedBy_append (state : σ) (first second : List α) :
    notedBy perform note state (first ++ second) =
      notedBy perform note state first ++
        notedBy perform note (stateAfter perform state first) second := by
  induction first generalizing state with
  | nil => rfl
  | cons step rest induction => simp [notedBy, stateAfter, induction]

theorem notedBy_concat (state : σ) (steps : List α) (step : α) :
    notedBy perform note state (steps ++ [step]) =
      notedBy perform note state steps ++ note (stateAfter perform state steps) step := by
  simp [notedBy_append, notedBy]

theorem notedBy_eq_of_getElem? {steps : List α} {place : Nat} {step : α}
    (found : steps[place]? = some step) (state : σ) :
    let before := stateAfter perform state (steps.take place)
    ∃ later, notedBy perform note state steps =
      notedBy perform note state (steps.take place) ++ note before step ++ later := by
  obtain ⟨inside, rfl⟩ := List.getElem?_eq_some_iff.mp found
  intro before
  have split : steps = steps.take place ++ [steps[place]] ++ steps.drop (place + 1) := by simp
  refine ⟨notedBy perform note (stateAfter perform state (steps.take place ++ [steps[place]]))
    (steps.drop (place + 1)), ?_⟩
  conv_lhs => rw [split, notedBy_append, notedBy_concat]

end

end EyesFree
