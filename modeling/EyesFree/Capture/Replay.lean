import EyesFree.Capture.Channel

namespace EyesFree

/-! A request channel without a camera. It keeps what it took, and reports on it when it is told to:
a frame for the repeating request, or an end for everything pending. -/

/-- A request that the channel took, under the channel's number for it. -/
structure Flight (κ : Type) where
  channelSequence : Int32
  request : Request
  client : κ

structure ReplayChannel (κ : Type) where
  rejecting : Bool := false
  nextSequence : Int32 := 0
  nextFrame : Nat := 0
  stops : Nat := 0
  aborts : Nat := 0
  submitted : List Request := []
  repeating : Option (Flight κ) := none
  /-- Requests for one capture whose end was not reported yet, oldest first. -/
  pending : List (Flight κ) := []

/-- What the replayed sensor reports for a frame. -/
def sampleResult (timestamp : Timestamp) : CaptureResult :=
  .ofEntries [(.sensorTimestamp, .long timestamp), (.sensorFrameDuration, .long 33333333),
    (.controlZoomRatio, .float ⟨0x3f800000⟩), (.controlAfState, .int 2)]

namespace ReplayChannel

variable {κ ε : Type}

/-- Take a request, unless the channel was told to reject. -/
def accept (client : κ) (request : Request) (channel : ReplayChannel κ) :
    Except Error (Flight κ) × ReplayChannel κ :=
  if channel.rejecting then
    (.error (.submissionRejected "loopback channel is rejecting requests"), channel)
  else
    (.ok ⟨channel.nextSequence, request, client⟩,
      { channel with
        submitted := channel.submitted ++ [request]
        nextSequence := channel.nextSequence + 1 })

def takeFrame : Activity (ReplayChannel κ) ε Nat :=
  Activity.step fun channel =>
    (channel.nextFrame, { channel with nextFrame := channel.nextFrame + 1 })

def report (hear : Hearing κ ε) (flight : Flight κ) (report : Report) :
    Activity (ReplayChannel κ) ε Unit := do
  Activity.emit (← Activity.require (hear flight.client flight.request report))

/-- Report the end of a request; this takes a frame number. -/
def reportCompleted (hear : Hearing κ ε) (flight : Flight κ) :
    Activity (ReplayChannel κ) ε Unit := do
  report hear flight (.sequenceCompleted flight.channelSequence (← takeFrame))

/-! ## Submission -/

def submit (client : κ) (request : Request) :
    Activity (ReplayChannel κ) ε (Except Error Int32) := do
  match ← Activity.step (accept client request) with
  | .error error => return .error error
  | .ok flight =>
      Activity.modify fun channel => { channel with pending := channel.pending ++ [flight] }
      return .ok flight.channelSequence

def takeRepeating : Activity (ReplayChannel κ) ε (Option (Flight κ)) :=
  Activity.step fun channel => (channel.repeating, { channel with repeating := none })

def takePending : Activity (ReplayChannel κ) ε (List (Flight κ)) :=
  Activity.step fun channel => (channel.pending, { channel with pending := [] })

def setRepeating (hear : Hearing κ ε) (client : κ) (request : Request) :
    Activity (ReplayChannel κ) ε (Except Error Int32) := do
  match ← Activity.step (accept client request) with
  | .error error => return .error error
  | .ok flight =>
      let replaced ← takeRepeating
      Activity.modify fun channel => { channel with repeating := some flight }
      replaced.forM (reportCompleted hear)
      return .ok flight.channelSequence

def stopRepeating (hear : Hearing κ ε) : Activity (ReplayChannel κ) ε Unit := do
  Activity.modify fun channel => { channel with stops := channel.stops + 1 }
  (← takeRepeating).forM (reportCompleted hear)

def abortCaptures (hear : Hearing κ ε) : Activity (ReplayChannel κ) ε Unit := do
  Activity.modify fun channel => { channel with aborts := channel.aborts + 1 }
  let repeating ← takeRepeating
  let pending ← takePending
  (repeating.toList ++ pending).forM fun flight =>
    report hear flight (.sequenceAborted flight.channelSequence)

instance : RequestChannel (ReplayChannel Subscription) where
  submit := submit
  setRepeating := setRepeating
  stopRepeating := stopRepeating
  abortCaptures := abortCaptures

/-! ## Replay -/

/-- Report on one frame of the repeating request, if one is running. -/
def replayRepeating (hear : Hearing κ ε) (reports : (frame : Nat) → List Report) :
    Activity (ReplayChannel κ) ε Bool := do
  match (← Activity.read).repeating with
  | none => return false
  | some flight =>
      let frame ← takeFrame
      (reports frame).forM (report hear flight)
      return true

def fireRepeating (hear : Hearing κ ε) (timestamp : Timestamp) :
    Activity (ReplayChannel κ) ε Bool :=
  replayRepeating hear fun frame =>
    [.started frame timestamp, .completed (sampleResult timestamp)]

def failRepeating (hear : Hearing κ ε) (reason : FailureReason) :
    Activity (ReplayChannel κ) ε Bool :=
  replayRepeating hear fun frame => [.failed frame reason]

/-- Report on a frame for each pending request and end it, oldest first. The requests leave the
queue before the first report. -/
def drain (hear : Hearing κ ε) (reports : Flight κ → (frame : Nat) → List Report) :
    Activity (ReplayChannel κ) ε Nat := do
  let pending ← takePending
  pending.forM fun flight => do
    let frame ← takeFrame
    (reports flight frame).forM (report hear flight)
    report hear flight (.sequenceCompleted flight.channelSequence frame)
  return pending.length

def completePending (hear : Hearing κ ε) (timestamp : Timestamp) :
    Activity (ReplayChannel κ) ε Nat :=
  drain hear fun _ frame => [.started frame timestamp, .completed (sampleResult timestamp)]

def completePendingWith (hear : Hearing κ ε) (result : CaptureResult) :
    Activity (ReplayChannel κ) ε Nat :=
  drain hear fun _ frame =>
    [.started frame (result.sensorTimestamp.getD 0), .completed result]

def failPending (hear : Hearing κ ε) (reason : FailureReason) :
    Activity (ReplayChannel κ) ε Nat :=
  drain hear fun _ frame => [.failed frame reason]

/-- Report a lost buffer of the first output of all that is pending. -/
def losePending (hear : Hearing κ ε) : Activity (ReplayChannel κ) ε Nat :=
  drain hear fun flight frame =>
    [.bufferLost frame (flight.request.outputs.head?.getD .preview)]

end ReplayChannel

end EyesFree
