import EyesFree.Fault
import EyesFree.Number.Binary

namespace EyesFree

/-! Pacing of a simulated sensor: ticks that are at least an interval apart. Times are counts of
nanoseconds of 64 bits. -/

structure Pacer where
  interval : Nat
  last : Option Nat
deriving DecidableEq, Repr

namespace Pacer

def ofRate (rate : UInt32) : Pacer := ⟨1000000000 / max rate.toNat 1, none⟩

/-- When the next tick is due; at once before the first one. -/
def deadline (pacer : Pacer) : Except Fault (Option Nat) :=
  match pacer.last with
  | none => .ok none
  | some last => (addCounts last pacer.interval).map some

/-- Whether a tick is due. If so, it is taken. -/
def tick (pacer : Pacer) (now : Nat) : Except Fault (Bool × Pacer) := do
  match ← pacer.deadline with
  | none => return (true, { pacer with last := some now })
  | some deadline =>
      if deadline ≤ now then return (true, { pacer with last := some now })
      else return (false, pacer)

def remaining (pacer : Pacer) (now : Nat) : Except Fault Nat := do
  return ((← pacer.deadline).map (· - now)).getD 0

end Pacer

/-- A count of nanoseconds in milliseconds, in double precision. -/
def milliseconds (nanoseconds : Int64) : Signed :=
  let value := Signed.ofInt .double nanoseconds.toInt
  { value with magnitude :=
      BinaryFormat.double.div value.magnitude (BinaryFormat.double.round (.ofNat 1000000)) }

end EyesFree
