import EyesFree.Pacing
import EyesFree.Program.Arguments

namespace EyesFree

/-! A session from beginning to end with a simulated camera. The camera is paced by the readings of
a clock; the relay's worker forwards a frame between two readings or it does not. -/

def simulationReceiver : Receiver := "client"

structure EventTally where
  started : Nat := 0
  processStarted : Nat := 0
  completed : Nat := 0
  failed : Nat := 0
  sequenceCompleted : Nat := 0
  sequenceAborted : Nat := 0
deriving DecidableEq, Repr

def EventTally.record (tally : EventTally) : CaptureEvent → EventTally
  | .started _ _ => { tally with started := tally.started + 1 }
  | .processStarted _ => { tally with processStarted := tally.processStarted + 1 }
  | .completed _ _ _ => { tally with completed := tally.completed + 1 }
  | .failed _ _ => { tally with failed := tally.failed + 1 }
  | .sequenceCompleted _ => { tally with sequenceCompleted := tally.sequenceCompleted + 1 }
  | .sequenceAborted _ => { tally with sequenceAborted := tally.sequenceAborted + 1 }

def EventTally.ofEvents (events : List CaptureEvent) : EventTally :=
  events.foldl EventTally.record {}

instance : Encode EventTally where
  encode tally := .record [("started", Json.ofNat tally.started),
    ("process_started", Json.ofNat tally.processStarted),
    ("completed", Json.ofNat tally.completed), ("failed", Json.ofNat tally.failed),
    ("sequence_completed", Json.ofNat tally.sequenceCompleted),
    ("sequence_aborted", Json.ofNat tally.sequenceAborted)]

/-! ## Setting up -/

namespace SimulateArguments

/-- The settings in effect: arguments count more than the configuration. -/
def settings (arguments : SimulateArguments) (configured : SimulationSettings) :
    SimulationSettings :=
  { configured with
    frames := arguments.frames.getD configured.frames
    fps := arguments.fps.getD configured.fps
    forwardDelay := arguments.forwardDelay.getD configured.forwardDelay }

def parameters (arguments : SimulateArguments) : CaptureRequest :=
  (((Metadata.empty.setSome .stabilizationMode
      (arguments.stabilization.map StabilizationMode.toValue)).setSome .autoZoom
      (if arguments.autoZoom then some (.bool true) else none)).setSome .paddingZoomFactor
      (arguments.paddingZoom.map .float)).setSome .maxPaddingZoomFactor
      (arguments.maxPaddingZoom.map .float)

end SimulateArguments

namespace SimulationSettings

def activeArray (settings : SimulationSettings) : Rect :=
  .ofExtent settings.activeArrayWidth settings.activeArrayHeight

def previewSize (settings : SimulationSettings) : Size :=
  ⟨settings.previewWidth, settings.previewHeight⟩

/-- Stills are as large as the active array, and at least one pixel. -/
def captureSize (settings : SimulationSettings) : Size :=
  let extent (length : Int32) : UInt32 := UInt32.ofNat (max length.toInt 1).toNat
  ⟨extent settings.activeArrayWidth, extent settings.activeArrayHeight⟩

def camera (settings : SimulationSettings) : CameraCharacteristics where
  activeArray := settings.activeArray
  streams := [⟨.yuv420, [settings.previewSize, settings.captureSize]⟩,
    ⟨.jpeg, [settings.captureSize]⟩]

end SimulationSettings

structure Simulation where
  settings : SimulationSettings
  stillEvery : Nat
  world : World (ReplayChannel Subscription)
  source : Nat
  pacer : Pacer
  parametersApplied : Nat
  frames : Nat := 0
  stillsRequested : Nat := 0
  stillsRejected : Nat := 0

namespace Simulation

def setUp (arguments : SimulateArguments) (configured : Settings) : Except Error Simulation := do
  let settings := arguments.settings configured.simulation
  let extender ← (Extender.select arguments.extension).initialized "0" settings.camera
  let session ← extender.createSession (.ofSettings configured.session)
  let (previewSurface, surfaces) := ({} : Surfaces).allocate
  let (captureSurface, surfaces) := surfaces.allocate
  let world : World (ReplayChannel Subscription) := ⟨session, {}, surfaces⟩
  let (configuration, world) := world.initSession "0"
    (.of previewSurface settings.previewSize .yuv420)
    (.of captureSurface settings.captureSize .jpeg)
  let _ ← configuration
  let (started, world) := world.startSession
  started
  let (applied, world) := world.setParameters arguments.parameters
  return {
    settings
    stillEvery := arguments.stillEvery.toNat
    world
    source := world.surfaces.sources.length - 1
    pacer := .ofRate settings.fps
    parametersApplied := ← applied }

/-! ## Running -/

/-- A reading of the clock, and whether the relay's worker forwarded its frame by then. -/
structure Reading where
  now : Timestamp
  forwarded : Bool
deriving DecidableEq, Repr

def onWorld {α : Type} (inner : Activity (World (ReplayChannel Subscription)) Delivery α) :
    Activity Simulation Delivery α :=
  inner.on (·.world) fun simulation world => { simulation with world }

def start : Activity Simulation Delivery (Except Error SequenceId) :=
  onWorld (World.startRepeating simulationReceiver)

def isDone (simulation : Simulation) : Bool :=
  decide (simulation.settings.frames.toNat ≤ simulation.frames)

/-- Take a still if it is its turn. -/
def takeStill : Activity Simulation Delivery Unit := do
  let simulation ← Activity.read
  if 0 < simulation.stillEvery ∧ simulation.frames % simulation.stillEvery = 0 then
    let outcome ← onWorld (World.startMultiFrame simulationReceiver)
    let rejected := if SequenceId.raw outcome = -1 then 1 else 0
    Activity.modify fun simulation => { simulation with
      stillsRequested := simulation.stillsRequested + 1
      stillsRejected := simulation.stillsRejected + rejected }

/-- Produce a preview frame, report on it, and complete the stills that wait. -/
def produceFrame (now : Timestamp) : Activity Simulation Delivery Unit := do
  Activity.modify fun simulation => { simulation with frames := simulation.frames + 1 }
  let source := (← Activity.read).source
  let _ ← onWorld (Activity.step (World.produce source now))
  let _ ← onWorld (World.onChannel fun hear => ReplayChannel.fireRepeating hear now)
  let _ ← onWorld (World.onChannel fun hear => ReplayChannel.completePending hear now)
  takeStill

def letForward (reading : Reading) : Activity Simulation Delivery Unit :=
  if reading.forwarded then onWorld (Activity.modify World.forwardFrame) else return ()

/-- Go on at a reading. If no frame is due, the answer is how long to wait. -/
def advance (reading : Reading) : Activity Simulation Delivery (Option Nat) := do
  letForward reading
  let now := reading.now.toInt.toNat
  let pacer := (← Activity.read).pacer
  let (due, pacer) ← Activity.require (pacer.tick now)
  Activity.modify fun simulation => { simulation with pacer }
  if due then
    produceFrame reading.now
    return none
  else return some (← Activity.require (pacer.remaining now))

/-- Complete what waits, stop the preview and end the session. -/
def finish (reading : Reading) : Activity Simulation Delivery (Except Error Unit) := do
  letForward reading
  let _ ← onWorld (World.onChannel fun hear => ReplayChannel.completePending hear reading.now)
  match ← onWorld World.stopRepeating with
  | .error error => return .error error
  | .ok _ =>
      match ← onWorld World.endSession with
      | .error error => return .error error
      | .ok _ =>
          onWorld World.deinitSession
          return .ok ()

/-- Run on a list of readings; nothing if they end before the simulation does. -/
def run : List Reading → Activity Simulation Delivery (Option (Except Error Unit))
  | [] => return none
  | reading :: rest => do
      if (← Activity.read).isDone then return some (← finish reading)
      else
        let _ ← advance reading
        run rest

/-! ## Report -/

def frameSource (simulation : Simulation) : FrameSource :=
  (simulation.world.surfaces.source? simulation.source).getD (.of 0 ⟨0, 0⟩ .yuv420 1)

end Simulation

structure SimulationReport where
  startedAt : String
  elapsed : Nat
  frames : Nat
  parametersApplied : Nat
  stillsRequested : Nat
  stillsRejected : Nat
  events : EventTally
  relay : RelayStats
  produced : Nat
  released : Nat
deriving DecidableEq, Repr

namespace SimulationReport

def of (simulation : Simulation) (events : EventTally) (startedAt : String) (elapsed : Nat) :
    SimulationReport where
  startedAt
  elapsed
  frames := simulation.frames
  parametersApplied := simulation.parametersApplied
  stillsRequested := simulation.stillsRequested
  stillsRejected := simulation.stillsRejected
  events
  relay := simulation.world.session.relayStats
  produced := simulation.frameSource.produced
  released := simulation.frameSource.released

/-- The drop rate of the relay; its counters are too small to overflow. -/
def dropRate (report : SimulationReport) : Signed :=
  (report.relay.dropRate.toOption).getD ⟨false, 0⟩

def elapsedSeconds (report : SimulationReport) : Signed :=
  ⟨false, BinaryFormat.double.round ⟨report.elapsed, 1000000000⟩⟩

def real (value : Signed) : Json := .number (.ofSigned .double Numeral.doubleStyle value)

def toJson (report : SimulationReport) : Json :=
  .record [("started_at", Json.ofString report.startedAt),
    ("elapsed_secs", real report.elapsedSeconds), ("frames", Json.ofNat report.frames),
    ("parameters_applied", Json.ofNat report.parametersApplied),
    ("stills_requested", Json.ofNat report.stillsRequested),
    ("stills_rejected", Json.ofNat report.stillsRejected), ("events", encode report.events),
    ("relay", encode report.relay), ("drop_rate_percent", real report.dropRate),
    ("produced_frames", Json.ofNat report.produced),
    ("released_frames", Json.ofNat report.released)]

def fixed (places : Nat) (value : Signed) : String :=
  Decimal.fixed places (BinaryFormat.double.value value.magnitude)

def lines (report : SimulationReport) : List String :=
  [s!"Session finished in {fixed 2 report.elapsedSeconds}s",
    s!"  Events: {report.events.started} started, {report.events.completed} completed, " ++
      s!"{report.events.failed} failed",
    s!"  Stills: {report.stillsRequested} requested, {report.stillsRejected} rejected",
    s!"  Relay: {report.relay.forwarded} forwarded, {report.relay.dropped} dropped " ++
      s!"({fixed 1 report.dropRate}%), {report.relay.failed} failed",
    s!"  Buffers: {report.produced} produced, {report.released} released"]

end SimulationReport

end EyesFree
