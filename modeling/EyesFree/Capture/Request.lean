import EyesFree.Metadata.Basic

namespace EyesFree

/-! Requests as they are handed to the request channel of the camera, and what the channel reports
about them. -/

abbrev OutputId := Int32

namespace OutputId

def capture : OutputId := 0

def preview : OutputId := 1

end OutputId

/-- Which operation of a client a request comes from. -/
inductive RequestKind
  | repeating
  | multiFrame
  | trigger
deriving DecidableEq, Repr

instance : Enumeration RequestKind where
  values := [.repeating, .multiFrame, .trigger]
  nodup := by decide
  complete value := by cases value <;> decide

namespace RequestKind

def name : RequestKind → String
  | .repeating => "repeating"
  | .multiFrame => "multi_frame"
  | .trigger => "trigger"

/-- The streams that a request of this kind fills. -/
def outputs : RequestKind → List OutputId
  | .repeating => [.preview]
  | .multiFrame => [.capture]
  | .trigger => [.preview]

end RequestKind

instance : Encode RequestKind := ⟨fun kind => Json.ofString kind.name⟩

instance : Decode RequestKind where
  decode := Json.variant? RequestKind.name

structure Request where
  kind : RequestKind
  outputs : List OutputId
  parameters : Snapshot
deriving DecidableEq, Repr

def Request.of (kind : RequestKind) (parameters : Snapshot) : Request :=
  ⟨kind, kind.outputs, parameters⟩

inductive FailureReason
  /-- The capture failed inside the camera. -/
  | error
  /-- The capture was discarded by a flush. -/
  | flushed
deriving DecidableEq, Repr

instance : Enumeration FailureReason where
  values := [.error, .flushed]
  nodup := by decide
  complete value := by cases value <;> decide

namespace FailureReason

def name : FailureReason → String
  | .error => "error"
  | .flushed => "flushed"

end FailureReason

instance : Encode FailureReason := ⟨fun reason => Json.ofString reason.name⟩

instance : Decode FailureReason where
  decode := Json.variant? FailureReason.name

/-- What the request channel reports about a request it took. Frames are numbered by the channel,
and so are the sequences of requests. -/
inductive Report
  | started (frame : Nat) (timestamp : Timestamp)
  | progressed (partly : CaptureResult)
  | completed (result : CaptureResult)
  | failed (frame : Nat) (reason : FailureReason)
  | bufferLost (frame : Nat) (output : OutputId)
  | sequenceCompleted (channelSequence : Int32) (frame : Nat)
  | sequenceAborted (channelSequence : Int32)
deriving DecidableEq

end EyesFree
