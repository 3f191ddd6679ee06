import EyesFree.Program.Moment
import EyesFree.Program.Printout
import Std.Time.Format

namespace EyesFree

/-! The program on a real clock and real files. -/

/-! ## Files -/

def readStored (path : String) : IO Stored := do
  match ← (IO.FS.readBinFile path).toBaseIO with
  | .ok content => return .file content
  | .error (.noFileOrDirectory ..) => return .missing
  | .error _ => return .directory

def writeStored (directory path : String) : Stored → IO Unit
  | .file content => do
      IO.FS.createDirAll directory
      IO.FS.writeBinFile path content
  | _ => return ()

/-! ## Time -/

/-- The present moment as a date and a time of day in universal time. -/
def presentMoment : IO String := do
  let moment ← Std.Time.Timestamp.now
  return describeMoment moment.toNanosecondsSinceUnixEpoch.val.toNat

/-- The time since a start, as a sensor reports it: never zero. -/
def sensorTime (start : Nat) : IO Timestamp := do
  return Int64.ofNat (max 1 ((← IO.monoNanosNow) - start))

/-! ## Commands -/

def printLines (lines : List String) : IO Unit := lines.forM IO.println

def print (printout : Printout) : IO UInt32 := do
  printLines printout.lines
  match printout.failure with
  | none => return 0
  | some message =>
      IO.eprintln s!"Error: {message}"
      return 1

def perform {α : Type} (arguments : SimulateArguments)
    (progress : IO.Ref (Simulation × EventTally)) (step : Activity Simulation Delivery α) :
    IO (Option α) := do
  let (simulation, tally) ← progress.get
  let performed := step simulation
  let events := performed.emitted.map (·.event)
  progress.set (performed.state, events.foldl EventTally.record tally)
  printLines (Printout.eventLines arguments performed.emitted)
  return performed.outcome.toOption

/-- Produce frames until there are enough. `since` is when the frame under way was accepted. -/
partial def produceFrames (arguments : SimulateArguments) (start : Nat)
    (progress : IO.Ref (Simulation × EventTally)) (since : Option Timestamp) : IO Unit := do
  let simulation := (← progress.get).1
  if simulation.isDone then return ()
  let now ← sensorTime start
  let delay := Int64.ofNat (simulation.settings.forwardDelay.toNat * 1000000)
  let forwarded := since.any fun accepted => decide (delay ≤ now - accepted)
  let wait ← perform arguments progress (Simulation.advance ⟨now, forwarded⟩)
  let inFlight := ((← progress.get).1.world.session.relay.bind Relay.inFlight).isSome
  let since := if !inFlight then none else if forwarded then some now else since.or (some now)
  match wait with
  | some (some nanoseconds) => IO.sleep (UInt32.ofNat (nanoseconds / 1000000))
  | _ => pure ()
  produceFrames arguments start progress since

def simulate (arguments : SimulateArguments) (configured : Settings) : IO UInt32 := do
  match Simulation.setUp arguments configured with
  | .error error => print { failure := some error.message }
  | .ok simulation =>
      printLines (Printout.simulationHeader simulation)
      let startedAt ← presentMoment
      let start ← IO.monoNanosNow
      let progress ← IO.mkRef (simulation, {})
      let _ ← perform arguments progress Simulation.start
      produceFrames arguments start progress none
      let _ ← perform arguments progress (Simulation.finish ⟨← sensorTime start, true⟩)
      let elapsed := (← IO.monoNanosNow) - start
      let (finished, tally) ← progress.get
      printLines (Printout.reportLines arguments
        (SimulationReport.of finished tally startedAt elapsed))
      return 0

def runCommand (command : Command) : IO UInt32 := do
  let path := Settings.path (← IO.getEnv "XDG_CONFIG_HOME") (← IO.getEnv "HOME")
  let directory := Settings.directory (← IO.getEnv "XDG_CONFIG_HOME") (← IO.getEnv "HOME")
  let stored ← readStored path
  match command with
  | .keys name json =>
      let settings := Settings.effective stored
      print (Printout.keys (.eyesFree settings.simulation.activeArray) name json)
  | .config save =>
      let (printout, saved) := Printout.config path stored save
      if save then writeStored directory path saved
      print printout
  | .simulate arguments => simulate arguments (Settings.effective stored)

end EyesFree

def main (arguments : List String) : IO UInt32 := do
  match EyesFree.Invocation.parse? arguments false with
  | none =>
      EyesFree.Printout.usage.forM IO.eprintln
      return 2
  | some .version => EyesFree.print { lines := EyesFree.Printout.version }
  | some .help => EyesFree.print { lines := EyesFree.Printout.usage }
  | some (.run _ command) => EyesFree.runCommand command
