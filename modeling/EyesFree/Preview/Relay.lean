import EyesFree.Json.Codec
import EyesFree.Preview.SlotRun

namespace EyesFree

/-! The relay of preview frames. A worker forwards one frame at a time; a frame that arrives in the
meantime is dropped. A flag says whether a frame is under way, and a slot for one frame hands it to
the worker; taking the sender away stops the relay. What a frame is does not matter to the relay. -/

inductive Offer
  | accepted
  /-- The relay was busy or stopped; the frame has to be released. -/
  | dropped
deriving DecidableEq, Repr

structure RelayStats where
  forwarded : Nat := 0
  /-- Frames that came while another one was under way, or too late. -/
  dropped : Nat := 0
  failed : Nat := 0
deriving DecidableEq, Repr

instance : Encode RelayStats where
  encode stats := .record [("forwarded", Json.ofNat stats.forwarded),
    ("dropped", Json.ofNat stats.dropped), ("failed", Json.ofNat stats.failed)]

namespace RelayStats

/-- The part of the frames that was dropped, in percent, in double precision. -/
def dropRate (stats : RelayStats) : Except Fault Signed := do
  let total ← addCounts (← addCounts stats.forwarded stats.dropped) stats.failed
  if total = 0 then return ⟨false, 0⟩
  let round (count : Nat) : Nat := BinaryFormat.double.round (.ofNat count)
  let part := BinaryFormat.double.div (round stats.dropped) (round total)
  return ⟨false, BinaryFormat.double.mul part (round 100)⟩

end RelayStats

inductive RelayWorker (φ : Type)
  | waiting
  | forwarding (frame : φ)
  /-- The output took or refused the frame, which is not released yet. -/
  | written (frame : φ) (queued : Bool)
  /-- The frame is released; the flag is still up. -/
  | forwarded (queued : Bool)
  /-- The flag is down; the frame is not counted yet. -/
  | cleared (queued : Bool)
  | stopped
deriving DecidableEq, Repr

structure Relay (φ : Type) where
  busy : Bool := false
  sending : Bool := true
  /-- A frame that was sent and not received yet. -/
  slot : Option φ := none
  worker : RelayWorker φ := .waiting
  stats : RelayStats := {}
deriving DecidableEq, Repr

namespace Relay

variable {φ : Type}

/-! ## Single steps

Each of these happens at once, also where several threads take turns. -/

def claim (relay : Relay φ) : Option (Relay φ) :=
  if relay.busy then none else some { relay with busy := true }

/-- Send a frame to the worker, unless the relay was stopped or the slot is taken. -/
def send (frame : φ) (relay : Relay φ) : Option (Relay φ) :=
  if relay.sending && relay.slot.isNone then some { relay with slot := some frame } else none

def lower (relay : Relay φ) : Relay φ := { relay with busy := false }

def countDropped (relay : Relay φ) : Relay φ :=
  { relay with stats := { relay.stats with dropped := relay.stats.dropped + 1 } }

/-- Stop taking frames. What was sent before is still received. -/
def stopSending (relay : Relay φ) : Relay φ := { relay with sending := false }

/-- The waiting worker receives a frame, or ends when there is none and none can come. -/
def receive (relay : Relay φ) : Relay φ :=
  match relay.worker, relay.slot with
  | .waiting, some frame => { relay with slot := none, worker := .forwarding frame }
  | .waiting, none => if relay.sending then relay else { relay with worker := .stopped }
  | _, _ => relay

def write (queued : Bool) (relay : Relay φ) : Relay φ :=
  match relay.worker with
  | .forwarding frame => { relay with worker := .written frame queued }
  | _ => relay

def release (relay : Relay φ) : Relay φ :=
  match relay.worker with
  | .written _ queued => { relay with worker := .forwarded queued }
  | _ => relay

def clear (relay : Relay φ) : Relay φ :=
  match relay.worker with
  | .forwarded queued => { relay.lower with worker := .cleared queued }
  | _ => relay

def countOutcome (queued : Bool) (stats : RelayStats) : RelayStats :=
  if queued then { stats with forwarded := stats.forwarded + 1 }
  else { stats with failed := stats.failed + 1 }

def count (relay : Relay φ) : Relay φ :=
  match relay.worker with
  | .cleared queued =>
      { relay with worker := .waiting, stats := countOutcome queued relay.stats }
  | _ => relay

/-! ## Operations -/

/-- Offer a frame. One that is dropped has to be released by the caller. -/
def offer (frame : φ) (relay : Relay φ) : Offer × Relay φ :=
  match relay.claim with
  | none => (.dropped, relay.countDropped)
  | some claimed =>
      match claimed.send frame with
      | some sent => (.accepted, sent)
      | none => (.dropped, claimed.lower.countDropped)

/-- The frame that the worker has to forward next. -/
def inFlight (relay : Relay φ) : Option φ :=
  match relay.worker with
  | .forwarding frame => some frame
  | _ => relay.slot

/-- The worker goes on from a forwarded frame until it waits again. -/
def complete (queued : Bool) (relay : Relay φ) : Relay φ :=
  (relay.receive.write queued).release.clear.count

end Relay

/-! ## Forwarding into the shared slot -/

structure RelayStage where
  relay : Relay Frame
  slot : OutputSlot
  surfaces : Surfaces
deriving DecidableEq

namespace RelayStage

/-- Let the worker forward the frame that is under way, if there is one, and release it to the
source it came from. -/
def forward (source : Nat) (stage : RelayStage) : RelayStage :=
  match stage.relay.inFlight with
  | none => stage
  | some frame =>
      let (queued, surfaces) := stage.slot.queue frame.timestamp stage.surfaces
      { stage with
        relay := stage.relay.complete queued.toBool
        surfaces := surfaces.updateSource source (FrameSource.release 1) }

/-- Offer a frame of a source. A frame that is dropped is released. -/
def offer (source : Nat) (frame : Frame) (stage : RelayStage) : Offer × RelayStage :=
  match stage.relay.offer frame with
  | (.accepted, relay) => (.accepted, { stage with relay })
  | (.dropped, relay) =>
      (.dropped, { stage with
        relay
        surfaces := stage.surfaces.updateSource source (FrameSource.release 1) })

def onSlot (step : SlotStep) (stage : RelayStage) : SlotReply × RelayStage :=
  let (reply, changed) := SlotStage.perform step ⟨stage.slot, stage.surfaces⟩
  (reply, { stage with slot := changed.slot, surfaces := changed.surfaces })

/-- Stop the relay: the frame under way is still forwarded, then the worker ends. -/
def shutdown (source : Nat) (stage : RelayStage) : RelayStage :=
  let finished := forward source { stage with relay := stage.relay.stopSending }
  { finished with relay := finished.relay.receive }

end RelayStage

end EyesFree
