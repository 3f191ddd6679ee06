import EyesFree.Json.Codec

namespace EyesFree

/-! The life of a capture session. -/

inductive SessionState
  /-- Created; the outputs are not described yet. -/
  | uninitialized
  /-- Outputs are allocated; the request channel is awaited. -/
  | configuring
  /-- The request channel is bound and captures are allowed. -/
  | active
  /-- The end was signaled; late events are held back. -/
  | ending
  /-- Everything is released. -/
  | deinitialized
deriving DecidableEq, Repr

instance : Enumeration SessionState where
  values := [.uninitialized, .configuring, .active, .ending, .deinitialized]
  nodup := by decide
  complete value := by cases value <;> decide

namespace SessionState

def name : SessionState → String
  | .uninitialized => "uninitialized"
  | .configuring => "configuring"
  | .active => "active"
  | .ending => "ending"
  | .deinitialized => "deinitialized"

def title : SessionState → String
  | .uninitialized => "Uninitialized"
  | .configuring => "Configuring"
  | .active => "Active"
  | .ending => "Ending"
  | .deinitialized => "Deinitialized"

end SessionState

instance : Encode SessionState := ⟨fun state => Json.ofString state.name⟩

instance : Decode SessionState where
  decode := Json.variant? SessionState.name

end EyesFree
