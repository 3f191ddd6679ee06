import EyesFree.Capture.Replay
import EyesFree.Capture.Sequencer

namespace EyesFree

/-! A sequencer among threads that start and stop the repeating capture. Each call consists of steps
that happen at once; the steps of different calls may come in any order. -/

inductive CallProgress
  | starting (receiver : Receiver)
  /-- A start that was not submitted yet. -/
  | numbered (id : SequenceId) (receiver : Receiver)
  /-- A start that the channel took and that is not recorded yet. -/
  | submitted (id : SequenceId)
  /-- A stop that did not look at the record yet. -/
  | stopping
  /-- A stop that took the record and did not tell the channel yet. -/
  | taken
  | returned
deriving DecidableEq, Repr

structure SequencerThreads where
  sequencer : Sequencer := {}
  channel : ReplayChannel Subscription := {}
  /-- How far each call got, in the order in which they began. -/
  calls : List CallProgress := []

inductive ThreadAction
  | start (receiver : Receiver)
  | stop
  /-- A call takes its next step. -/
  | advance (call : Nat)
deriving DecidableEq, Repr

namespace SequencerThreads

def reach (call : Nat) (progress : CallProgress) (threads : SequencerThreads) :
    SequencerThreads :=
  { threads with calls := threads.calls.set call progress }

def isQuiet (threads : SequencerThreads) : Bool := threads.calls.all (· = .returned)

def advance (context : CaptureContext) (call : Nat) (threads : SequencerThreads) :
    Option SequencerThreads :=
  match threads.calls[call]? with
  | some (.starting receiver) =>
      match threads.sequencer.takeId with
      | (.ok id, sequencer) =>
          some ({ threads with sequencer }.reach call (.numbered id receiver))
      | (.error _, sequencer) => some ({ threads with sequencer }.reach call .returned)
  | some (.numbered id receiver) =>
      let performed := ReplayChannel.setRepeating context.hear ⟨id, .repeating, receiver⟩
        (Request.of .repeating context.parameters.snapshot) threads.channel
      let next := match performed.outcome with
        | .ok (.ok _) => CallProgress.submitted id
        | _ => .returned
      some ({ threads with channel := performed.state }.reach call next)
  | some (.submitted id) =>
      some ({ threads with sequencer := threads.sequencer.record id }.reach call .returned)
  | some .stopping =>
      match threads.sequencer.takeRecorded with
      | (some _, sequencer) => some ({ threads with sequencer }.reach call .taken)
      | (none, sequencer) => some ({ threads with sequencer }.reach call .returned)
  | some .taken =>
      let performed := ReplayChannel.stopRepeating context.hear threads.channel
      some ({ threads with channel := performed.state }.reach call .returned)
  | some .returned => none
  | none => none

def act (context : CaptureContext) (threads : SequencerThreads) :
    ThreadAction → Option SequencerThreads
  | .start receiver => some { threads with calls := threads.calls ++ [.starting receiver] }
  | .stop => some { threads with calls := threads.calls ++ [.stopping] }
  | .advance call => threads.advance context call

def run (context : CaptureContext) (threads : SequencerThreads) (actions : List ThreadAction) :
    Option SequencerThreads :=
  actions.foldlM (act context) threads

end SequencerThreads

end EyesFree
