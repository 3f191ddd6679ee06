import EyesFree.Preview.SourceUse
import EyesFree.Proofs.Run

namespace EyesFree

/-! What becomes of the frames that a source produces. Each of them is released, waits in
the queue or is held by someone who took it, and those that are taken come out as they went
in. Closing the source releases the frames that wait, but not those that are held. -/

/-! ## The source -/

namespace FrameSource

variable {source : FrameSource}

def frameAt (timestamp : Timestamp) (source : FrameSource) : Frame :=
  ⟨timestamp, source.size, source.format⟩

private theorem accepts_iff :
    source.accepts = true ↔ source.closed = false ∧ source.queue.length < source.capacity := by
  simp [accepts]

private theorem produce_of_accepts (accepts : source.accepts = true) (timestamp : Timestamp) :
    source.produce timestamp = (true, { source with
      produced := source.produced + 1
      queue := source.queue ++ [source.frameAt timestamp] }) := by
  simp [produce, accepts, frameAt]

private theorem produce_of_refuses (refuses : source.accepts = false) (timestamp : Timestamp) :
    source.produce timestamp = (false, { source with
      produced := source.produced + 1
      released := source.released + 1 }) := by
  simp [produce, refuses, release]

theorem release_zero (source : FrameSource) : source.release 0 = source := rfl

private theorem close_of_closed (closed : source.closed = true) :
    source.close = source := if_pos closed

private theorem close_of_open (opened : source.closed = false) :
    source.close = { source with
      released := source.released + source.queue.length
      closed := true
      closeCalls := source.closeCalls + 1
      queue := []
      listened := false } := by
  simp [close, opened, release]

end FrameSource

namespace UsedSource

variable {used : UsedSource}

private theorem take_of_empty (empty : used.source.queue = []) (use : FrameUse) :
    used.take use = (none, used) := by
  cases use <;> simp [take, FrameSource.acquire, empty]

private theorem take_of_cons {oldest : Frame} {rest : List Frame}
    (waiting : used.source.queue = oldest :: rest) (use : FrameUse) :
    used.take use = (some oldest, match use with
      | .release =>
          { used with
            source := { used.source with queue := rest, released := used.source.released + 1 } }
      | .hold =>
          { source := { used.source with queue := rest }
            held := used.held ++ [oldest] }) := by
  cases use <;> simp [take, FrameSource.acquire, waiting, FrameSource.release]

@[simp] theorem fst_take (use : FrameUse) (used : UsedSource) :
    (used.take use).1 = used.source.queue.head? := by
  cases waiting : used.source.queue with
  | nil => rw [take_of_empty waiting, List.head?_nil]
  | cons oldest rest => rw [take_of_cons waiting, List.head?_cons]

private theorem fst_notify (answer : Option FrameUse) (used : UsedSource) :
    (used.notify answer).1 = answer.bind fun _ => used.source.queue.head? := by
  cases answer with
  | none => rfl
  | some use => exact fst_take use used

private theorem letGo_of_lt {place : Nat} (inside : place < used.held.length) :
    used.letGo place =
      { source := { used.source with released := used.source.released + 1 },
        held := used.held.eraseIdx place } := by
  rw [letGo, List.getElem?_eq_getElem inside]
  rfl

private theorem letGo_of_ge {place : Nat} (outside : used.held.length ≤ place) :
    used.letGo place = used := by
  rw [letGo, List.getElem?_eq_none outside]

/-! ## What is noted of a run -/

def produced (used : UsedSource) : UseStep → List Frame
  | .produce timestamp _ => [used.source.frameAt timestamp]
  | _ => []

/-- The frame that a step produces, if it enters the queue. -/
def entered (used : UsedSource) (step : UseStep) : List Frame :=
  match (perform step used).outcome with
  | .ok (.produced true _ _) => used.produced step
  | _ => []

/-- The frame that a step takes from the queue, for a listener or directly. -/
def acquired (used : UsedSource) (step : UseStep) : List Frame :=
  match (perform step used).outcome with
  | .ok (.produced _ _ frame) => frame.toList
  | .ok (.taken frame) => frame.toList
  | _ => []

/-- What a step that produces a frame does: a listener is notified of a frame that enters
the queue and can take the oldest one then. -/
theorem perform_produce (timestamp : Timestamp) (answer : Option FrameUse) (used : UsedSource) :
    let filled : UsedSource := { used with source := (used.source.produce timestamp).2 }
    let notified := used.source.accepts && used.source.listened
    let answered := if notified then filled.notify answer else (none, filled)
    perform (.produce timestamp answer) used =
      ⟨answered.2, [], .ok (.produced used.source.accepts notified answered.1)⟩ := by
  simp only [perform, Activity.step_apply, change, produce]
  cases accepts : used.source.accepts with
  | false => simp [FrameSource.produce_of_refuses accepts]
  | true =>
      rw [FrameSource.produce_of_accepts accepts]
      cases listened : used.source.listened <;> simp

private theorem outcome_produce (timestamp : Timestamp) (answer : Option FrameUse)
    (used : UsedSource) :
    let notified := used.source.accepts && used.source.listened
    let waiting := used.source.queue ++ [used.source.frameAt timestamp]
    (perform (.produce timestamp answer) used).outcome = .ok (.produced used.source.accepts notified
      (if notified then answer.bind fun _ => waiting.head? else none)) := by
  simp only [perform_produce]
  cases accepts : used.source.accepts with
  | false => rfl
  | true =>
      rw [FrameSource.produce_of_accepts accepts]
      cases used.source.listened with
      | false => rfl
      | true => simp [fst_notify]

private theorem outcome_take (use : FrameUse) (used : UsedSource) :
    (perform (.take use) used).outcome = .ok (.taken used.source.queue.head?) := by
  simp [perform, change]

end UsedSource

/-! ## The account -/

structure SourceAccount (capacity : Nat) (produced entered acquired : List Frame)
    (used : UsedSource) : Prop where
  holds : used.source.capacity = capacity
  bounded : used.source.queue.length ≤ capacity
  made : used.source.produced = produced.length
  balanced : used.source.produced =
    used.source.released + used.source.queue.length + used.held.length
  ordered : entered.Sublist produced
  started : acquired <+: entered
  waiting : used.source.closed = false → entered = acquired ++ used.source.queue
  emptied : used.source.closed = true → used.source.queue = []
  counted : used.source.closeCalls = used.source.closed.toNat
  taken : used.held.Sublist acquired

namespace SourceAccount

variable {capacity : Nat} {produced entered acquired : List Frame} {used : UsedSource}

private theorem initial (surface : SurfaceId) (size : Size) (format : ImageFormat)
    (maxImages : Nat) :
    SourceAccount (max maxImages 1) [] [] []
      ⟨FrameSource.of surface size format maxImages, []⟩ where
  holds := rfl
  bounded := Nat.zero_le _
  made := rfl
  balanced := rfl
  ordered := List.Sublist.refl _
  started := List.prefix_rfl
  waiting := fun _ => rfl
  emptied := nofun
  counted := rfl
  taken := List.Sublist.refl _

private theorem enter (account : SourceAccount capacity produced entered acquired used)
    (accepts : used.source.accepts = true) (timestamp : Timestamp) :
    let frame := used.source.frameAt timestamp
    SourceAccount capacity (produced ++ [frame]) (entered ++ [frame]) acquired
      { used with source := (used.source.produce timestamp).2 } := by
  obtain ⟨opened, room⟩ := FrameSource.accepts_iff.mp accepts
  rw [FrameSource.produce_of_accepts accepts]
  exact {
    holds := account.holds
    bounded := by
      rw [account.holds] at room
      simpa using Nat.succ_le_of_lt room
    made := by simp [account.made]
    balanced := by
      have balanced := account.balanced
      simp only [List.length_append, List.length_singleton]
      omega
    ordered := account.ordered.append_right _
    started := account.started.trans (List.prefix_append ..)
    waiting := fun _ => by rw [account.waiting opened, List.append_assoc]
    emptied := fun closed => by cases opened.symm.trans closed
    counted := account.counted
    taken := account.taken }

private theorem refuse (account : SourceAccount capacity produced entered acquired used)
    (refuses : used.source.accepts = false) (timestamp : Timestamp) :
    SourceAccount capacity (produced ++ [used.source.frameAt timestamp]) entered acquired
      { used with source := (used.source.produce timestamp).2 } := by
  rw [FrameSource.produce_of_refuses refuses]
  exact { account with
    made := by simp [account.made]
    balanced := by
      have balanced := account.balanced
      simp only
      omega
    ordered := account.ordered.trans (List.sublist_append_left ..) }

private theorem take (account : SourceAccount capacity produced entered acquired used)
    (use : FrameUse) :
    SourceAccount capacity produced entered (acquired ++ (used.take use).1.toList)
      (used.take use).2 := by
  cases waiting : used.source.queue with
  | nil => simpa [UsedSource.take_of_empty waiting] using account
  | cons oldest rest =>
      have opened : used.source.closed = false := by
        refine Bool.eq_false_iff.mpr fun closed => ?_
        cases (account.emptied closed).symm.trans waiting
      have order : entered = acquired ++ [oldest] ++ rest := by
        rw [account.waiting opened, waiting, List.append_assoc, List.singleton_append]
      have bounded : rest.length + 1 ≤ capacity := by
        simpa [waiting] using account.bounded
      have balanced : used.source.produced =
          used.source.released + (rest.length + 1) + used.held.length := by
        simpa [waiting] using account.balanced
      rw [UsedSource.take_of_cons waiting]
      cases use with
      | release =>
          exact { account with
            bounded := Nat.le_of_succ_le bounded
            balanced := by simp only; omega
            started := ⟨rest, order.symm⟩
            waiting := fun _ => order
            emptied := fun closed => by cases opened.symm.trans closed
            taken := account.taken.trans (List.sublist_append_left ..) }
      | hold =>
          exact { account with
            bounded := Nat.le_of_succ_le bounded
            balanced := by
              simp only [List.length_append, List.length_singleton]
              omega
            started := ⟨rest, order.symm⟩
            waiting := fun _ => order
            emptied := fun closed => by cases opened.symm.trans closed
            taken := account.taken.append_right [oldest] }

private theorem letGo (account : SourceAccount capacity produced entered acquired used)
    (place : Nat) :
    SourceAccount capacity produced entered acquired (used.letGo place) := by
  rcases Nat.lt_or_ge place used.held.length with inside | outside
  · rw [UsedSource.letGo_of_lt inside]
    exact { account with
      balanced := by
        have balanced := account.balanced
        have fewer := List.length_eraseIdx_of_lt inside
        simp only
        omega
      taken := (List.eraseIdx_sublist ..).trans account.taken }
  · rwa [UsedSource.letGo_of_ge outside]

private theorem close (account : SourceAccount capacity produced entered acquired used) :
    SourceAccount capacity produced entered acquired
      { used with source := used.source.close } := by
  cases closed : used.source.closed with
  | true => rwa [FrameSource.close_of_closed closed]
  | false =>
      rw [FrameSource.close_of_open closed]
      exact { account with
        bounded := Nat.zero_le _
        waiting := nofun
        emptied := fun _ => rfl
        counted := by simp [account.counted, closed] }

private theorem step (account : SourceAccount capacity produced entered acquired used)
    (step : UseStep) :
    SourceAccount capacity (produced ++ used.produced step) (entered ++ used.entered step)
      (acquired ++ used.acquired step) (UsedSource.perform step used).state := by
  cases step with
  | produce timestamp answer =>
      simp only [UsedSource.entered, UsedSource.acquired, UsedSource.produced,
        UsedSource.perform_produce]
      cases accepts : used.source.accepts with
      | false => simpa using account.refuse accepts timestamp
      | true =>
          have filled := account.enter accepts timestamp
          cases used.source.listened with
          | false => simpa using filled
          | true =>
              cases answer with
              | none => simpa [UsedSource.notify] using filled
              | some use => simpa [UsedSource.notify] using filled.take use
  | take use =>
      have taken := account.take use
      rwa [← List.append_nil produced, ← List.append_nil entered] at taken
  | letGo place =>
      have released := account.letGo place
      rwa [← List.append_nil produced, ← List.append_nil entered,
        ← List.append_nil acquired] at released
  | listen listened =>
      have attached : SourceAccount capacity produced entered acquired
          { used with source := used.source.setListened listened } := { account with }
      rwa [← List.append_nil produced, ← List.append_nil entered,
        ← List.append_nil acquired] at attached
  | close =>
      have closed := account.close
      rwa [← List.append_nil produced, ← List.append_nil entered,
        ← List.append_nil acquired] at closed

private theorem run (account : SourceAccount capacity produced entered acquired used)
    (steps : List UseStep) :
    SourceAccount capacity
      (produced ++ notedBy UsedSource.perform UsedSource.produced used steps)
      (entered ++ notedBy UsedSource.perform UsedSource.entered used steps)
      (acquired ++ notedBy UsedSource.perform UsedSource.acquired used steps)
      (stateAfter UsedSource.perform used steps) := by
  induction steps generalizing produced entered acquired used with
  | nil => simpa [notedBy] using account
  | cons step rest induction =>
      simp only [notedBy, ← List.append_assoc]
      exact induction (account.step step)

end SourceAccount

namespace UsedSource

private theorem closed_take (use : FrameUse) (used : UsedSource) :
    (used.take use).2.source.closed = used.source.closed := by
  cases waiting : used.source.queue with
  | nil => rw [take_of_empty waiting]
  | cons oldest rest => cases use <;> rw [take_of_cons waiting]

private theorem closed_notify (answer : Option FrameUse) (used : UsedSource) :
    (used.notify answer).2.source.closed = used.source.closed := by
  cases answer with
  | none => rfl
  | some use => exact closed_take use used

private theorem closed_perform (step : UseStep) (used : UsedSource) :
    (perform step used).state.source.closed = true ↔
      used.source.closed = true ∨ step = .close := by
  cases step with
  | produce timestamp answer =>
      have filled : (used.source.produce timestamp).2.closed = used.source.closed := by
        cases accepts : used.source.accepts with
        | false => rw [FrameSource.produce_of_refuses accepts]
        | true => rw [FrameSource.produce_of_accepts accepts]
      simp only [perform_produce]
      split
      · simp [closed_notify, filled]
      · simp [filled]
  | take use => simp [perform, change, closed_take]
  | letGo place =>
      rcases Nat.lt_or_ge place used.held.length with inside | outside
      · simp [perform, change, letGo_of_lt inside]
      · simp [perform, change, letGo_of_ge outside]
  | listen listened => simp [perform, change, FrameSource.setListened]
  | close =>
      cases closed : used.source.closed with
      | true => simp [perform, change, FrameSource.close_of_closed, closed]
      | false => simp [perform, change, FrameSource.close_of_open closed]

private theorem closed_after (used : UsedSource) (steps : List UseStep) :
    (stateAfter perform used steps).source.closed = true ↔
      used.source.closed = true ∨ .close ∈ steps := by
  induction steps generalizing used with
  | nil => simp
  | cons step rest induction =>
      rw [stateAfter, induction, closed_perform, List.mem_cons, or_assoc,
        eq_comm (a := step)]

end UsedSource

/-! ## Listeners -/

def UseStep.listens? : UseStep → Option Bool
  | .listen listened => some listened
  | _ => none

/-- Whether the last of the steps that attach a listener or take it away attaches one. -/
def attachedBy (steps : List UseStep) : Bool :=
  decide ((steps.filterMap UseStep.listens?).getLast? = some true)

namespace UsedSource

private theorem listened_take (use : FrameUse) (used : UsedSource) :
    (used.take use).2.source.listened = used.source.listened := by
  cases waiting : used.source.queue with
  | nil => rw [take_of_empty waiting]
  | cons oldest rest => cases use <;> rw [take_of_cons waiting]

private theorem listened_produce (timestamp : Timestamp) (answer : Option FrameUse)
    (used : UsedSource) :
    (perform (.produce timestamp answer) used).state.source.listened = used.source.listened := by
  have filled : (used.source.produce timestamp).2.listened = used.source.listened := by
    cases accepts : used.source.accepts with
    | false => rw [FrameSource.produce_of_refuses accepts]
    | true => rw [FrameSource.produce_of_accepts accepts]
  simp only [perform_produce]
  split
  · cases answer with
    | none => exact filled
    | some use => exact (listened_take use _).trans filled
  · exact filled

private theorem listened_perform {step : UseStep}
    (remains : step = .close → used.source.closed = true) :
    (perform step used).state.source.listened = step.listens?.getD used.source.listened := by
  cases step with
  | produce timestamp answer => exact listened_produce timestamp answer used
  | take use => exact listened_take use used
  | letGo place =>
      rcases Nat.lt_or_ge place used.held.length with inside | outside
      · simp [perform, change, letGo_of_lt inside, UseStep.listens?]
      · simp [perform, change, letGo_of_ge outside, UseStep.listens?]
  | listen listened => rfl
  | close => simp [perform, change, FrameSource.close_of_closed (remains rfl), UseStep.listens?]

/-- While no step closes the source, or when it is closed already, the last step that sets
the listener decides. -/
theorem listened_after {steps : List UseStep}
    (remains : .close ∈ steps → used.source.closed = true) :
    (stateAfter perform used steps).source.listened =
      ((steps.filterMap UseStep.listens?).getLast?).getD used.source.listened := by
  induction steps using List.reverseRecOn with
  | nil => rfl
  | append_singleton steps step induction =>
      have before (closing : .close ∈ steps) : used.source.closed = true :=
        remains (List.mem_append_left _ closing)
      have closed (closing : step = .close) :
          (stateAfter perform used steps).source.closed = true :=
        (closed_after used steps).mpr (.inl (remains (by simp [closing])))
      rw [stateAfter_concat, listened_perform closed, induction before, List.filterMap_append]
      cases sets : step.listens? <;> simp [sets]

private theorem listened_of_silent {steps : List UseStep} (silent : used.source.listened = false)
    (remains : .close ∈ steps → used.source.closed = true) :
    (stateAfter perform used steps).source.listened = attachedBy steps := by
  rw [listened_after remains, silent, attachedBy]
  cases (steps.filterMap UseStep.listens?).getLast? with
  | none => rfl
  | some listened => cases listened <;> rfl

/-- Closing a source for the first time takes its listener away. -/
theorem listened_of_closed {before after : List UseStep} (opened : used.source.closed = false)
    (first : .close ∉ before) :
    (stateAfter perform used (before ++ .close :: after)).source.listened = attachedBy after := by
  have still : (stateAfter perform used before).source.closed = false := by
    rw [← Bool.not_eq_true, closed_after, opened]
    simpa using first
  rw [stateAfter_append, stateAfter]
  refine listened_of_silent ?_ fun _ => ?_ <;>
    simp [perform, change, FrameSource.close_of_open still]

end UsedSource

/-! ## Counting listeners -/

namespace UsedSource

private theorem stateAfter_letGo (held : List Frame) (source : FrameSource) :
    stateAfter perform ⟨source, held⟩ (List.replicate held.length (.letGo 0)) =
      ⟨source.release held.length, []⟩ := by
  induction held generalizing source with
  | nil => rfl
  | cons frame rest induction =>
      refine (induction (source.release 1)).trans ?_
      simp only [FrameSource.release, List.length_cons]
      rw [Nat.add_assoc, Nat.add_comm 1]

end UsedSource

namespace WatchedSource

private theorem used_notify (listener : CountingListener) (source : FrameSource)
    (held : List Frame) :
    UsedSource.mk (listener.notify source).2 held =
      (UsedSource.notify listener.answer ⟨source, held⟩).2 := by
  unfold CountingListener.notify CountingListener.answer
  cases listener.takes with
  | false => rfl
  | true =>
      cases waiting : source.queue <;>
        simp [UsedSource.notify, UsedSource.take, FrameSource.acquire, waiting]

private theorem used_produce (timestamp : Timestamp) (watched : WatchedSource) :
    (watched.produce timestamp).2.used =
      (UsedSource.perform (.produce timestamp (watched.listener.bind (·.answer)))
        watched.used).state := by
  obtain ⟨source, listener, held⟩ := watched
  simp only [produce, used, UsedSource.perform, Activity.step_apply, UsedSource.change,
    UsedSource.produce]
  rcases source.produce timestamp with ⟨accepted, filled⟩
  cases accepted with
  | false => rfl
  | true =>
      cases listened : filled.listened with
      | false => cases listener <;> simp [listened]
      | true =>
          cases listener with
          | none => simp [UsedSource.notify, listened]
          | some listener => simpa [listened] using used_notify listener filled held

private theorem used_perform (step : SourceStep) (watched : WatchedSource) :
    (watched.perform step).2.used =
      stateAfter UsedSource.perform watched.used (watched.uses step) := by
  cases step with
  | produce timestamp => exact watched.used_produce timestamp
  | acquire =>
      cases waiting : watched.source.queue <;>
        simp [perform, uses, used, stateAfter, UsedSource.perform, UsedSource.change,
          UsedSource.take, FrameSource.acquire, waiting, FrameSource.release_zero]
  | hold =>
      cases waiting : watched.source.queue <;>
        simp [perform, uses, used, stateAfter, UsedSource.perform, UsedSource.change,
          UsedSource.take, FrameSource.acquire, waiting]
  | releaseHeld => exact (UsedSource.stateAfter_letGo watched.held watched.source).symm
  | listen takes => rfl
  | unlisten => rfl
  | close => rfl

theorem used_after (steps : List SourceStep) (watched : WatchedSource) :
    ∃ uses, (steps.foldl (fun watched step => (watched.perform step).2) watched).used =
      stateAfter UsedSource.perform watched.used uses := by
  induction steps generalizing watched with
  | nil => exact ⟨[], rfl⟩
  | cons step rest induction =>
      obtain ⟨uses, after⟩ := induction (watched.perform step).2
      refine ⟨watched.uses step ++ uses, after.trans ?_⟩
      rw [stateAfter_append, used_perform]

end WatchedSource

/-! ## Every use of a source -/

/-- Where all the frames of a source are, after any use of it: how many there are, that
they come out as they went in, and what is left when it is closed. A listener is notified
of each frame that enters the queue, from when it is attached until it is taken away or
the source is closed. -/
theorem source_accounted (surface : SurfaceId) (size : Size) (format : ImageFormat)
    (maxImages : Nat) (steps : List UseStep) :
    let start : UsedSource := ⟨FrameSource.of surface size format maxImages, []⟩
    let final := stateAfter UsedSource.perform start steps
    let source := final.source
    let produced := notedBy UsedSource.perform UsedSource.produced start steps
    let entered := notedBy UsedSource.perform UsedSource.entered start steps
    let acquired := notedBy UsedSource.perform UsedSource.acquired start steps
    source.queue.length ≤ max maxImages 1 ∧
      source.produced = produced.length ∧
      source.produced = source.released + source.queue.length + final.held.length ∧
      (.close ∈ steps → source.queue = []) ∧
      source.closeCalls = (if .close ∈ steps then 1 else 0) ∧
      entered.Sublist produced ∧ acquired <+: entered ∧ final.held.Sublist acquired ∧
      (.close ∉ steps → entered = acquired ++ source.queue) ∧
      (.close ∉ steps → source.listened = attachedBy steps) ∧
      (∀ before after, steps = before ++ .close :: after → .close ∉ before →
        source.listened = attachedBy after) ∧
      (∀ use, (UsedSource.perform (.take use) final).outcome = .ok (.taken source.queue.head?)) ∧
      ∀ timestamp answer,
        let frame := source.frameAt timestamp
        let accepted := decide (.close ∉ steps ∧ source.queue.length < max maxImages 1)
        let notified := accepted && attachedBy steps
        let taken := if notified then answer.bind fun _ => (source.queue ++ [frame]).head? else none
        (UsedSource.perform (.produce timestamp answer) final).outcome =
          .ok (.produced accepted notified taken) := by
  intro start final source produced entered acquired
  have account : SourceAccount (max maxImages 1) produced entered acquired final :=
    (SourceAccount.initial surface size format maxImages).run steps
  have closed : source.closed = true ↔ .close ∈ steps :=
    (UsedSource.closed_after start steps).trans (or_iff_right Bool.false_ne_true)
  have opened : source.closed = false ↔ .close ∉ steps := by
    rw [← closed, Bool.not_eq_true]
  have listened (never : .close ∉ steps) : source.listened = attachedBy steps :=
    UsedSource.listened_of_silent rfl fun closing => absurd closing never
  refine ⟨account.bounded, account.made, account.balanced,
    fun member => account.emptied (closed.mpr member), ?_, account.ordered, account.started,
    account.taken, fun never => account.waiting (opened.mpr never), listened, ?_,
    fun use => UsedSource.outcome_take use final, ?_⟩
  · refine account.counted.trans ?_
    by_cases member : .close ∈ steps
    · rw [if_pos member, closed.mpr member, Bool.toNat_true]
    · rw [if_neg member, opened.mpr member, Bool.toNat_false]
  · rintro before after rfl first
    exact UsedSource.listened_of_closed rfl first
  · intro timestamp answer frame accepted notified taken
    have accepts : source.accepts = accepted := by
      rw [Bool.eq_iff_iff, FrameSource.accepts_iff, opened, account.holds, decide_eq_true_iff]
    have heard : (accepted && source.listened) = notified := by
      cases entering : accepted with
      | false => simp [notified, entering]
      | true => simp [notified, entering, listened (of_decide_eq_true entering).1]
    rw [UsedSource.outcome_produce, accepts, heard]

/-- A queue of one frame, with a listener that holds the first frame and takes no other, and
again when the source is closed. -/
def reattached : List UseStep :=
  [.listen true, .produce 1 (some .hold), .produce 2 none, .produce 3 none, .close, .listen true]

theorem source_accounted_reattached :
    let start : UsedSource := ⟨FrameSource.of 1000 ⟨640, 480⟩ .yuv420 1, []⟩
    let after (count : Nat) := stateAfter UsedSource.perform start (reattached.take count)
    let frame (timestamp : Timestamp) : Frame := ⟨timestamp, ⟨640, 480⟩, .yuv420⟩
    (UsedSource.perform (.produce 1 (some .hold)) (after 1)).outcome =
        .ok (.produced true true (some (frame 1))) ∧
      (UsedSource.perform (.produce 2 none) (after 2)).outcome = .ok (.produced true true none) ∧
      (UsedSource.perform (.produce 3 none) (after 3)).outcome = .ok (.produced false false none) ∧
      (after 6).source.listened = true ∧ (after 6).held = [frame 1] ∧
      (UsedSource.perform (.produce 4 (some .hold)) (after 6)).outcome =
        .ok (.produced false false none) := by
  intro start after frame
  obtain ⟨_, _, _, _, _, _, _, _, _, _, _, _, first⟩ :=
    source_accounted 1000 ⟨640, 480⟩ .yuv420 1 (reattached.take 1)
  obtain ⟨_, _, _, _, _, _, _, _, _, _, _, _, second⟩ :=
    source_accounted 1000 ⟨640, 480⟩ .yuv420 1 (reattached.take 2)
  obtain ⟨_, _, _, _, _, _, _, _, _, _, _, _, third⟩ :=
    source_accounted 1000 ⟨640, 480⟩ .yuv420 1 (reattached.take 3)
  obtain ⟨_, _, _, _, _, _, _, _, _, _, listened, _, last⟩ :=
    source_accounted 1000 ⟨640, 480⟩ .yuv420 1 (reattached.take 6)
  exact ⟨first 1 (some .hold), second 2 none, third 3 none,
    listened (reattached.take 4) [.listen true] rfl (by decide), by decide, last 4 (some .hold)⟩

end EyesFree
