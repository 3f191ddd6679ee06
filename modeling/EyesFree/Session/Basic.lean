import EyesFree.Capture.Replay
import EyesFree.Capture.Sequencer
import EyesFree.Config
import EyesFree.Preview.Relay

namespace EyesFree

/-! A capture session of the extension. The client describes its outputs; the session redirects the
preview output to a frame source of its own, whose frames it relays to the client, and submits
captures to the request channel that it is bound to. -/

structure SessionConfig where
  /-- The capacity of the internal frame source and of the output. -/
  maxImages : UInt64
  relayThreadName : String
deriving DecidableEq, Repr

/-- At least one image fits. -/
def SessionConfig.ofSettings (settings : SessionSettings) : SessionConfig :=
  ⟨max settings.maxImages 1, settings.relayThreadName⟩

/-! ## What the capture stack has to bind -/

structure OutputConfiguration where
  output : OutputId
  surfaces : List OutputSurface
deriving DecidableEq, Repr

structure StackConfiguration where
  sessionType : Int32
  outputs : List OutputConfiguration
deriving DecidableEq, Repr

def regularSession : Int32 := 0

def StackConfiguration.output? (configuration : StackConfiguration) (output : OutputId) :
    Option OutputConfiguration :=
  configuration.outputs.find? (·.output = output)

instance : Encode OutputConfiguration where
  encode configuration := .record [("output_id", encode configuration.output),
    ("surfaces", encode configuration.surfaces)]

instance : Decode OutputConfiguration where
  decode position json := do
    let [output, surfaces] ← json.fields? ["output_id", "surfaces"] | none
    return ⟨← Json.field? position output, ← Json.field? position surfaces⟩

instance : Encode StackConfiguration where
  encode configuration := .record [("session_type", encode configuration.sessionType),
    ("outputs", encode configuration.outputs)]

instance : Decode StackConfiguration where
  decode position json := do
    let [sessionType, outputs] ← json.fields? ["session_type", "outputs"] | none
    return ⟨← Json.field? position sessionType, ← Json.field? position outputs⟩

/-! ## The session and what it works with -/

structure Session where
  config : SessionConfig
  context : CaptureContext
  state : SessionState := .uninitialized
  cameraId : Option String := none
  preview : Option OutputSurface := none
  capture : Option OutputSurface := none
  source : Option Nat := none
  slot : OutputSlot := {}
  relay : Option (Relay Frame) := none
  sequencer : Option Sequencer := none
  finalStats : RelayStats := {}

def Session.new (capabilities : Capabilities) (config : SessionConfig) : Session :=
  { config, context := { capabilities } }

/-- A session, the request channel that it may be bound to, and the surfaces. -/
structure World (σ : Type) where
  session : Session
  channel : σ
  surfaces : Surfaces

namespace Session

/-- Counters of the relay; the final ones after it was shut down. -/
def relayStats (session : Session) : RelayStats :=
  match session.relay with
  | some relay => relay.stats
  | none => session.finalStats

def expectState (session : Session) (operation : String) (allowed : List SessionState) :
    Except Error Unit :=
  if session.state ∈ allowed then .ok () else .error (.invalidState operation session.state)

def activeSequencer (session : Session) (operation : String) : Except Error Sequencer :=
  match session.sequencer, session.state with
  | some sequencer, .active => .ok sequencer
  | _, _ => .error (.invalidState operation session.state)

end Session

namespace World

variable {σ : Type}

/-! ## The relay of a session -/

def stage (world : World σ) (relay : Relay Frame) : RelayStage :=
  ⟨relay, world.session.slot, world.surfaces⟩

def withStage (world : World σ) (stage : RelayStage) : World σ :=
  { world with
    session := { world.session with relay := some stage.relay, slot := stage.slot }
    surfaces := stage.surfaces }

def forwardFrame (world : World σ) : World σ :=
  match world.session.relay, world.session.source with
  | some relay, some source => world.withStage ((world.stage relay).forward source)
  | _, _ => world

/-- The relay is notified of a frame: it takes the oldest one out of the queue. -/
def relayFrame (source : Nat) (world : World σ) : World σ :=
  match world.session.relay, world.surfaces.source? source with
  | some relay, some queue =>
      match queue.acquire with
      | (none, _) => world
      | (some frame, rest) =>
          let taken := { world with surfaces := world.surfaces.updateSource source fun _ => rest }
          taken.withStage ((taken.stage relay).offer source frame).2
  | _, _ => world

/-- The camera produces a frame on a source. The answer is whether it entered the queue. -/
def produce (source : Nat) (timestamp : Timestamp) (world : World σ) : Bool × World σ :=
  match world.surfaces.source? source with
  | none => (false, world)
  | some queue =>
      let (entered, after) := queue.produce timestamp
      let produced := { world with surfaces := world.surfaces.updateSource source fun _ => after }
      if entered && after.listened then (true, produced.relayFrame source)
      else (entered, produced)

/-! ## Setting up -/

/-- Describe the outputs to bind, and make the internal frame source if there is a preview. -/
def initSession (cameraId : String) (preview capture : OutputSurface) (world : World σ) :
    Except Error StackConfiguration × World σ :=
  match world.session.expectState "init_session" [.uninitialized] with
  | .error error => (.error error, world)
  | .ok _ =>
      let captureOutputs :=
        if capture.isPresent then [⟨.capture, [capture]⟩] else []
      let session := { world.session with
        capture := if capture.isPresent then some capture else world.session.capture }
      let configured (session : Session) (surfaces : Surfaces)
          (outputs : List OutputConfiguration) :
          Except Error StackConfiguration × World σ :=
        (.ok ⟨regularSession, outputs⟩,
          { world with
            session := { session with cameraId := some cameraId, state := .configuring }
            surfaces })
      if preview.isPresent then
        match world.surfaces.createSource preview.size preview.format
            session.config.maxImages.toNat with
        | (.error error, surfaces) => (.error error, { world with session, surfaces })
        | (.ok source, surfaces) =>
            let redirected := OutputSurface.of
              (((surfaces.source? source).map (·.surface)).getD 0) preview.size preview.format
            configured { session with source := some source, preview := some preview } surfaces
              (captureOutputs ++ [⟨.preview, [redirected]⟩])
      else configured session world.surfaces captureOutputs

/-- Open the client's preview output and start the relay, if a preview was asked for. -/
def startRelay (world : World σ) : Except Error Unit × World σ :=
  match world.session.preview.bind (·.surface), world.session.source with
  | some surface, some source =>
      match world.surfaces.openOutput surface with
      | (.error error, surfaces) => (.error error, { world with surfaces })
      | (.ok output, surfaces) =>
          let (slot, surfaces) := world.session.slot.install output surfaces
          (.ok (), { world with
            session := { world.session with slot, relay := some {} }
            surfaces := surfaces.updateSource source (FrameSource.setListened true) })
  | _, _ => (.ok (), world)

def startSession (world : World σ) : Except Error Unit × World σ :=
  match world.session.expectState "on_capture_session_start" [.configuring] with
  | .error error => (.error error, world)
  | .ok _ =>
      match world.startRelay with
      | (.error error, world) => (.error error, world)
      | (.ok _, world) =>
          (.ok (), { world with
            session := { world.session with sequencer := some {}, state := .active } })

/-! ## Captures -/

/-- Merge the published entries of a request into the parameters, and count them. -/
def setParameters (request : CaptureRequest) (world : World σ) :
    Except Error Nat × World σ :=
  match world.session.expectState "set_parameters" [.configuring, .active] with
  | .error error => (.error error, world)
  | .ok _ =>
      let context := world.session.context
      let (applied, parameters) := context.parameters.set context.capabilities request
      (.ok applied, { world with
        session := { world.session with context := { context with parameters } } })

/-- A step of the session's sequencer on the channel. Without a sequencer nothing is done. -/
def onSequencer {α : Type} (sequencer : Sequencer)
    (inner : Activity (Sequencer × σ) Delivery α) : Activity (World σ) Delivery α :=
  inner.on (fun world => (sequencer, world.channel)) fun world (sequencer, channel) =>
    { world with session := { world.session with sequencer := some sequencer }, channel }

def whileActive {α : Type} (operation : String)
    (inner : CaptureContext → Activity (Sequencer × σ) Delivery (Except Error α)) :
    Activity (World σ) Delivery (Except Error α) := do
  let session := (← Activity.read).session
  match session.activeSequencer operation with
  | .error error => return .error error
  | .ok sequencer => onSequencer sequencer (inner session.context)

variable [RequestChannel σ]

def startRepeating (receiver : Receiver) :
    Activity (World σ) Delivery (Except Error SequenceId) :=
  whileActive "start_repeating" fun context => Sequencer.startRepeating context receiver

def startMultiFrame (receiver : Receiver) :
    Activity (World σ) Delivery (Except Error SequenceId) :=
  whileActive "start_multi_frame_capture" fun context =>
    Sequencer.startMultiFrame context receiver

def startTrigger (request : CaptureRequest) (receiver : Receiver) :
    Activity (World σ) Delivery (Except Error SequenceId) :=
  whileActive "start_trigger" fun context => Sequencer.startTrigger context request receiver

def stopRepeating : Activity (World σ) Delivery (Except Error Unit) :=
  whileActive "stop_repeating" fun context => do
    Sequencer.stopRepeating context
    return .ok ()

/-! ## Ending -/

/-- Hold back late events, abort what is outstanding and let go of the request channel. -/
def endCapture : Activity (World σ) Delivery Unit := do
  Activity.modify fun world => { world with
    session := { world.session with context := { world.session.context with ended := true } } }
  let session := (← Activity.read).session
  match session.sequencer with
  | none => return ()
  | some sequencer =>
      onSequencer sequencer (Sequencer.abortAll session.context)
      Activity.modify fun world => { world with
        session := { world.session with sequencer := none } }

def endSession : Activity (World σ) Delivery (Except Error Unit) := do
  match (← Activity.read).session.expectState "on_capture_session_end" [.active] with
  | .error error => return .error error
  | .ok _ =>
      endCapture
      Activity.modify fun world => { world with
        session := { world.session with state := .ending } }
      return .ok ()

def closeSource (world : World σ) : World σ :=
  match world.session.source with
  | none => world
  | some source =>
      { world with surfaces := world.surfaces.updateSource source fun queue =>
          (queue.setListened false).close }

def closeRelay (world : World σ) : World σ :=
  match world.session.relay, world.session.source with
  | some relay, some source =>
      let stage := (world.stage relay).shutdown source
      { world with
        session := { world.session with
          relay := none, slot := stage.slot, finalStats := stage.relay.stats }
        surfaces := stage.surfaces }
  | _, _ => world

def closeOutput (world : World σ) : World σ :=
  let (_, slot, surfaces) := world.session.slot.release world.surfaces
  { world with session := { world.session with slot }, surfaces }

/-- Release everything. Allowed in any state, also more than once. -/
def deinitSession : Activity (World σ) Delivery Unit := do
  let session := (← Activity.read).session
  if session.state = .deinitialized then return ()
  if session.sequencer.isSome then endCapture
  Activity.modify fun world =>
    let closed := world.closeSource.closeRelay.closeOutput
    { closed with session := { closed.session with
        source := none
        context := { closed.session.context with parameters := .empty }
        state := .deinitialized } }

end World

/-! ## Replay on a session -/

/-- A step of the replaying channel of a session, with its reports going to the clients. -/
def World.onChannel {α : Type}
    (inner : Hearing Subscription Delivery →
      Activity (ReplayChannel Subscription) Delivery α) :
    Activity (World (ReplayChannel Subscription)) Delivery α := do
  let hear := (← Activity.read).session.context.hear
  (inner hear).on (·.channel) fun world channel => { world with channel }

end EyesFree
