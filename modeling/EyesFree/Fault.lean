namespace EyesFree

/-! Arithmetic that leaves its range is a fault: the step that computes it ends there. -/

inductive Fault
  | addition
  | subtraction
deriving DecidableEq, Repr

namespace Fault

def message : Fault → String
  | .addition => "attempt to add with overflow"
  | .subtraction => "attempt to subtract with overflow"

end Fault

/-! ## Checked arithmetic -/

/-- The 32-bit integer with a given value, if there is one. -/
def toInt32 (fault : Fault) (value : Int) : Except Fault Int32 :=
  if Int32.minValue.toInt ≤ value ∧ value ≤ Int32.maxValue.toInt then .ok (Int32.ofInt value)
  else .error fault

def addInt32 (left right : Int32) : Except Fault Int32 :=
  toInt32 .addition (left.toInt + right.toInt)

def subInt32 (left right : Int32) : Except Fault Int32 :=
  toInt32 .subtraction (left.toInt - right.toInt)

def addCounts (left right : Nat) : Except Fault Nat :=
  if left + right < UInt64.size then .ok (left + right) else .error .addition

end EyesFree
