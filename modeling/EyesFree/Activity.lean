import EyesFree.Fault

namespace EyesFree

/-! Steps that change a state and emit events. A fault ends a step, but what it changed and
emitted before that stays. -/

structure Performed (σ ε α : Type) where
  state : σ
  emitted : List ε
  outcome : Except Fault α

def Activity (σ ε α : Type) : Type := σ → Performed σ ε α

namespace Activity

variable {σ τ ε α β : Type}

def pure (value : α) : Activity σ ε α := fun state => ⟨state, [], .ok value⟩

def bind (first : Activity σ ε α) (next : α → Activity σ ε β) : Activity σ ε β := fun state =>
  match first state with
  | ⟨state, emitted, .ok value⟩ =>
      let rest := next value state
      ⟨rest.state, emitted ++ rest.emitted, rest.outcome⟩
  | ⟨state, emitted, .error fault⟩ => ⟨state, emitted, .error fault⟩

instance : Monad (Activity σ ε) where
  pure := pure
  bind := bind

def read : Activity σ ε σ := fun state => ⟨state, [], .ok state⟩

def modify (change : σ → σ) : Activity σ ε Unit := fun state => ⟨change state, [], .ok ()⟩

/-- Change the state and answer with what the change yields. -/
def step (change : σ → α × σ) : Activity σ ε α := fun state =>
  let (value, state) := change state
  ⟨state, [], .ok value⟩

def emit (events : List ε) : Activity σ ε Unit := fun state => ⟨state, events, .ok ()⟩

/-- Go on with a computed value, or end with its fault. -/
def require (computed : Except Fault α) : Activity σ ε α := fun state => ⟨state, [], computed⟩

def on (part : σ → τ) (replace : σ → τ → σ) (inner : Activity τ ε α) : Activity σ ε α :=
  fun state =>
    let performed := inner (part state)
    ⟨replace state performed.state, performed.emitted, performed.outcome⟩

/-! ### What the parts do to a state -/

@[simp] theorem pure_apply (value : α) (state : σ) :
    (Pure.pure value : Activity σ ε α) state = ⟨state, [], .ok value⟩ := rfl

@[simp] theorem read_apply (state : σ) :
    (read : Activity σ ε σ) state = ⟨state, [], .ok state⟩ := rfl

@[simp] theorem modify_apply (change : σ → σ) (state : σ) :
    (modify change : Activity σ ε Unit) state = ⟨change state, [], .ok ()⟩ := rfl

@[simp] theorem step_apply (change : σ → α × σ) (state : σ) :
    (step change : Activity σ ε α) state = ⟨(change state).2, [], .ok (change state).1⟩ := rfl

@[simp] theorem emit_apply (events : List ε) (state : σ) :
    (emit events : Activity σ ε Unit) state = ⟨state, events, .ok ()⟩ := rfl

@[simp] theorem require_apply (computed : Except Fault α) (state : σ) :
    (require computed : Activity σ ε α) state = ⟨state, [], computed⟩ := rfl

@[simp] theorem on_apply (part : σ → τ) (replace : σ → τ → σ) (inner : Activity τ ε α)
    (state : σ) :
    on part replace inner state =
      ⟨replace state (inner (part state)).state, (inner (part state)).emitted,
        (inner (part state)).outcome⟩ := rfl

theorem bind_apply (first : Activity σ ε α) (next : α → Activity σ ε β) (state : σ) :
    (first >>= next) state = match first state with
      | ⟨state, emitted, .ok value⟩ =>
          ⟨(next value state).state, emitted ++ (next value state).emitted,
            (next value state).outcome⟩
      | ⟨state, emitted, .error fault⟩ => ⟨state, emitted, .error fault⟩ := rfl

theorem bind_of_ok {first : Activity σ ε α} {next : α → Activity σ ε β} {state after : σ}
    {emitted : List ε} {value : α} (succeeds : first state = ⟨after, emitted, .ok value⟩) :
    (first >>= next) state =
      ⟨(next value after).state, emitted ++ (next value after).emitted,
        (next value after).outcome⟩ := by
  rw [bind_apply, succeeds]

theorem bind_of_error {first : Activity σ ε α} {next : α → Activity σ ε β} {state after : σ}
    {emitted : List ε} {fault : Fault} (fails : first state = ⟨after, emitted, .error fault⟩) :
    (first >>= next) state = ⟨after, emitted, .error fault⟩ := by
  rw [bind_apply, fails]

/-- A step whose answer is only put into another form. -/
theorem bind_pure_apply (first : Activity σ ε α) (form : α → β) (state : σ) :
    (first >>= fun value => (Pure.pure (form value) : Activity σ ε β)) state =
      ⟨(first state).state, (first state).emitted, (first state).outcome.map form⟩ := by
  rcases outcome : first state with ⟨after, emitted, value | value⟩ <;>
    simp [bind_apply, outcome, Except.map]

instance : LawfulMonad (Activity σ ε) :=
  LawfulMonad.mk' (Activity σ ε)
    (fun activity => by
      funext state
      change Activity.bind activity (fun value => Activity.pure value) state = activity state
      rcases outcome : activity state with ⟨after, emitted, value | value⟩ <;>
        simp [Activity.bind, Activity.pure, outcome])
    (fun value next => by
      funext state
      simp [bind_apply])
    (fun first second third => by
      funext state
      rcases outcome : first state with ⟨after, emitted, value | value⟩
      · simp [bind_apply, outcome]
      · rcases following : second value after with ⟨last, more, result | result⟩ <;>
          simp [bind_apply, outcome, following, List.append_assoc])

end Activity

/-! ## Runs -/

/-- What a step answered or which fault ended it, what it emitted, and the state after it. -/
structure Recorded (σ ε α : Type) where
  outcome : Except Fault α
  emitted : List ε
  after : σ

/-- Perform one step after the other. A fault ends its own step only. -/
def runSteps {σ ε α β : Type} (perform : α → Activity σ ε β) : σ → List α → List (Recorded σ ε β)
  | _, [] => []
  | state, step :: rest =>
      let performed := perform step state
      ⟨performed.outcome, performed.emitted, performed.state⟩ ::
        runSteps perform performed.state rest

end EyesFree
