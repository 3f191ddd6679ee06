import EyesFree.Preview.RelayThreads
import Mathlib.Data.List.Nodup

namespace EyesFree

/-! The steps of a relay among threads, said once: what each needs and what it changes. -/

namespace RelayThreads

inductive Move (threads : RelayThreads) : RelayThreads → Prop
  | enter : Move threads { threads with offers := threads.offers ++ [.entering] }
  | claim {frame} (found : threads.offers[frame]? = some .entering)
      (idle : threads.relay.busy = false) :
      Move threads
        ({ threads with relay := { threads.relay with busy := true } }.reach frame .claimed)
  | refuse {frame} (found : threads.offers[frame]? = some .entering) :
      Move threads (threads.reach frame .refused)
  | send {frame} (found : threads.offers[frame]? = some .claimed)
      (sending : threads.relay.sending = true) (empty : threads.relay.slot = none) :
      Move threads
        ({ threads with
          relay := { threads.relay with slot := some frame }
          accepted := threads.accepted ++ [frame] }.reach frame (.answered .accepted))
  | fail {frame} (found : threads.offers[frame]? = some .claimed) :
      Move threads (threads.reach frame .unsent)
  | lower {frame} (found : threads.offers[frame]? = some .unsent) :
      Move threads ({ threads with relay := threads.relay.lower }.reach frame .refused)
  | countDropped {frame} (found : threads.offers[frame]? = some .refused) :
      Move threads ({ threads with relay := threads.relay.countDropped }.reach frame .counted)
  | drop {frame} (found : threads.offers[frame]? = some .counted) :
      Move threads
        ({ threads with released := threads.released ++ [frame] }.reach frame
          (.answered .dropped))
  | receive {frame} (waiting : threads.relay.worker = .waiting)
      (sent : threads.relay.slot = some frame) :
      Move threads { threads with
        relay := { threads.relay with slot := none, worker := .forwarding frame } }
  | stop (waiting : threads.relay.worker = .waiting) (empty : threads.relay.slot = none)
      (severed : threads.relay.sending = false) :
      Move threads { threads with relay := { threads.relay with worker := .stopped } }
  | write {frame} (queued : Bool) (forwarding : threads.relay.worker = .forwarding frame) :
      Move threads { threads with
        relay := { threads.relay with worker := .written frame queued }
        written := threads.written ++ [frame] }
  | release {frame queued} (written : threads.relay.worker = .written frame queued) :
      Move threads { threads with
        relay := { threads.relay with worker := .forwarded queued }
        released := threads.released ++ [frame] }
  | clear {queued} (forwarded : threads.relay.worker = .forwarded queued) :
      Move threads { threads with
        relay := { threads.relay with busy := false, worker := .cleared queued } }
  | count {queued} (cleared : threads.relay.worker = .cleared queued) :
      Move threads { threads with
        relay := { threads.relay with
          worker := .waiting, stats := Relay.countOutcome queued threads.relay.stats } }
  | beginShutdown : Move threads { threads with shutdowns := threads.shutdowns ++ [.entering] }
  | sever {call} (found : threads.shutdowns[call]? = some .entering) :
      Move threads
        ({ threads with relay := threads.relay.stopSending }.reachShutdown call .severed)
  | takeHandle {call} (found : threads.shutdowns[call]? = some .severed) :
      Move threads ({ threads with joinable := false }.reachShutdown call .joining)
  | leave {call} (found : threads.shutdowns[call]? = some .severed) :
      Move threads (threads.reachShutdown call (.returned false))
  | join {call} (found : threads.shutdowns[call]? = some .joining)
      (stopped : threads.relay.worker = .stopped) :
      Move threads (threads.reachShutdown call (.returned true))

variable {threads after : RelayThreads}

private theorem move_of_advance {frame : Nat} (acted : threads.advance frame = some after) :
    threads.Move after := by
  unfold advance at acted
  split at acted
  next found =>
    cases busy : threads.relay.busy with
    | true =>
        simp only [Relay.claim, busy, if_true, Option.some.injEq] at acted
        exact acted ▸ .refuse found
    | false =>
        simp only [Relay.claim, busy, Bool.false_eq_true, if_false, Option.some.injEq] at acted
        exact acted ▸ .claim found busy
  next found =>
    by_cases able : (threads.relay.sending && threads.relay.slot.isNone) = true
    · have parts := Bool.and_eq_true_iff.mp able
      simp only [Relay.send, able, if_true, Option.some.injEq] at acted
      exact acted ▸ .send found parts.1 (Option.isNone_iff_eq_none.mp parts.2)
    · rw [Relay.send, if_neg able] at acted
      exact Option.some.inj acted ▸ .fail found
  next found => exact Option.some.inj acted ▸ .lower found
  next found => exact Option.some.inj acted ▸ .countDropped found
  next found => exact Option.some.inj acted ▸ .drop found
  next => cases acted
  next => cases acted

private theorem move_of_work {queued : Bool} (acted : threads.work queued = some after) :
    threads.Move after := by
  unfold work at acted
  split at acted
  next waiting =>
    cases slot : threads.relay.slot with
    | some frame =>
        simp only [slot, Option.isNone_some, Bool.and_false, Bool.false_eq_true, if_false,
          Relay.receive, waiting, Option.some.injEq] at acted
        exact acted ▸ .receive waiting slot
    | none =>
        cases sending : threads.relay.sending with
        | true => simp [slot, sending] at acted
        | false =>
            have ended : threads.relay.receive = { threads.relay with worker := .stopped } := by
              simp [Relay.receive, waiting, slot, sending]
            rw [ended, sending, Bool.false_and, if_neg Bool.false_ne_true] at acted
            exact Option.some.inj acted ▸ .stop waiting slot sending
  next frame forwarding =>
    simp only [Relay.write, forwarding, Option.some.injEq] at acted
    exact acted ▸ .write queued forwarding
  next frame _ written =>
    simp only [Relay.release, written, Option.some.injEq] at acted
    exact acted ▸ .release written
  next forwarded =>
    simp only [Relay.clear, forwarded, Relay.lower, Option.some.injEq] at acted
    exact acted ▸ .clear forwarded
  next cleared =>
    simp only [Relay.count, cleared, Option.some.injEq] at acted
    exact acted ▸ .count cleared
  next => cases acted

private theorem move_of_proceed {call : Nat} (acted : threads.proceed call = some after) :
    threads.Move after := by
  unfold proceed at acted
  split at acted
  next found => exact Option.some.inj acted ▸ .sever found
  next found =>
    split at acted
    · exact Option.some.inj acted ▸ .takeHandle found
    · exact Option.some.inj acted ▸ .leave found
  next found =>
    split at acted
    next stopped => exact Option.some.inj acted ▸ .join found stopped
    next => cases acted
  next => cases acted
  next => cases acted

private theorem move_of_act {action : RelayAction} (acted : threads.act action = some after) :
    threads.Move after := by
  cases action with
  | offer => exact Option.some.inj acted ▸ .enter
  | advance frame => exact move_of_advance acted
  | work queued => exact move_of_work acted
  | shutdown => exact Option.some.inj acted ▸ .beginShutdown
  | proceed call => exact move_of_proceed acted

/-- What every move keeps holds after any actions. -/
theorem run_of_moves {motive : RelayThreads → Prop}
    (preserved : ∀ threads after, threads.Move after → motive threads → motive after)
    {actions : List RelayAction} (ran : threads.run actions = some after)
    (initial : motive threads) : motive after := by
  induction actions generalizing threads with
  | nil => exact Option.some.inj ran ▸ initial
  | cons action rest induction =>
      obtain ⟨next, acted, later⟩ := Option.bind_eq_some_iff.mp ran
      exact induction later (preserved threads next (move_of_act acted) initial)

theorem run_append {first second : List RelayAction} {between : RelayThreads}
    (ranFirst : threads.run first = some between) (ranSecond : between.run second = some after) :
    threads.run (first ++ second) = some after := by
  unfold run at *
  rw [List.foldlM_append, ranFirst]
  exact ranSecond

end RelayThreads

end EyesFree
