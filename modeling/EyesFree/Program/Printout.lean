import EyesFree.Program.Simulation

namespace EyesFree

/-! What the commands print. -/

/-- Lines on standard output, and what went wrong after them. -/
structure Printout where
  lines : List String := []
  failure : Option String := none
deriving DecidableEq, Repr

/-! ## Keys -/

structure KeyRow where
  name : String
  published : Bool
deriving DecidableEq, Repr

instance : Encode KeyRow where
  encode row := .record [("name", encode row.name), ("published", encode row.published)]

namespace KeyRow

def ofRequestKey (capabilities : Capabilities) (key : RequestKey) : KeyRow :=
  ⟨key.dottedName, capabilities.requestKeys.contains key⟩

def ofResultKey (capabilities : Capabilities) (key : ResultKey) : KeyRow :=
  ⟨key.dottedName, capabilities.resultKeys.contains key⟩

def line (row : KeyRow) : String := (if row.published then "[OK]  " else "[--]  ") ++ row.name

end KeyRow

/-- A title, a rule of fifty characters and the rows. -/
def keySection (title : String) (rows : List KeyRow) : List String :=
  [title, String.ofList (List.replicate 50 '=')] ++ rows.map KeyRow.line

namespace Printout

def keys (capabilities : Capabilities) (name : Option String) (json : Bool) : Printout :=
  match name with
  | some name =>
      match RequestKey.ofDottedName? name with
      | none => { failure := some s!"Unknown request key: {name}" }
      | some key =>
          let row := KeyRow.ofRequestKey capabilities key
          if json then { lines := [(encode row).pretty] }
          else { lines := keySection "Request key" [row] }
  | none =>
      let requestRows := Enumeration.values.map (KeyRow.ofRequestKey capabilities)
      let resultRows := Enumeration.values.map (KeyRow.ofResultKey capabilities)
      if json then
        { lines := [(Json.record [("request_keys", encode requestRows),
            ("result_keys", encode resultRows)]).pretty] }
      else
        { lines := keySection "Request keys" requestRows ++
            "" :: keySection "Result keys" resultRows }

/-! ## Configuration -/

/-- The settings in effect, and what the file holds afterwards if they are to be saved. -/
def config (path : String) (stored : Stored) (save : Bool) : Printout × Stored :=
  let settings := Settings.effective stored
  let shown := [s!"Config file: {path}"] ++
    (match stored with
      | .missing => ["  (not present, using defaults)"]
      | _ => []) ++ ["", settings.text]
  if save then
    match settings.save stored with
    | .ok saved => ({ lines := shown ++ ["", s!"Saved to {path}"] }, saved)
    | .error error =>
        ({ lines := shown, failure := some s!"Failed to save config: {error.message}" }, stored)
  else ({ lines := shown }, stored)

/-! ## Simulation -/

def simulationHeader (simulation : Simulation) : List String :=
  ["Simulating eyes-free session",
    s!"  Preview: {simulation.settings.previewSize.describe} @ {simulation.settings.fps.toNat}fps",
    s!"  Frames: {simulation.settings.frames.toNat}",
    s!"  Parameters applied: {simulation.parametersApplied}",
    ""]

def eventLines (arguments : SimulateArguments) (deliveries : List Delivery) : List String :=
  if arguments.events then deliveries.map fun delivery => (encode delivery.event).compact else []

/-- What is printed after the last event: one line after events, and several otherwise. -/
def reportLines (arguments : SimulateArguments) (report : SimulationReport) : List String :=
  if arguments.events then [report.toJson.compact] else report.lines

def simulation (arguments : SimulateArguments) (configured : Settings)
    (readings : List Simulation.Reading) (startedAt : String) (elapsed : Nat) : Printout :=
  match Simulation.setUp arguments configured with
  | .error error => { failure := some error.message }
  | .ok simulation =>
      let started := Simulation.start simulation
      let performed := Simulation.run readings started.state
      let deliveries := started.emitted ++ performed.emitted
      let report := SimulationReport.of performed.state
        (.ofEvents (deliveries.map (·.event))) startedAt elapsed
      { lines := simulationHeader simulation ++ eventLines arguments deliveries ++
          reportLines arguments report }

def usage : List String :=
  ["Eyes-free videography camera extension session tools", "",
    "Usage: efv [OPTIONS] <COMMAND>", "",
    "Commands:",
    "  simulate  Run a session end to end with a simulated camera",
    "  keys      List the request and result keys and whether they are published",
    "  config    Show the effective configuration", "",
    "Options:",
    "  -v, --verbose  Enable verbose logging",
    "  -h, --help     Print help",
    "  -V, --version  Print version"]

def version : List String := ["efv 0.1.0"]

end Printout

end EyesFree
