import EyesFree.Error

namespace EyesFree

/-! The configuration file. Each section, and each setting in it, may be left out and then has its
default; what the file holds besides is ignored. -/

structure SessionSettings where
  /-- The capacity of the internal frame source and of the output. -/
  maxImages : UInt64 := 10
  relayThreadName : String := "efv-image-relay"
deriving DecidableEq, Repr

structure SimulationSettings where
  fps : UInt32 := 30
  frames : UInt32 := 90
  previewWidth : UInt32 := 1920
  previewHeight : UInt32 := 1080
  activeArrayWidth : Int32 := 4000
  activeArrayHeight : Int32 := 3000
  /-- How long the preview output takes for a frame, in milliseconds. -/
  forwardDelay : UInt64 := 5
deriving DecidableEq, Repr

structure LoggingSettings where
  level : String := "info"
  json : Bool := false
  file : Option String := none
deriving DecidableEq, Repr

structure Settings where
  session : SessionSettings := {}
  simulation : SimulationSettings := {}
  logging : LoggingSettings := {}
deriving DecidableEq, Repr

instance : Encode SessionSettings where
  encode settings := .record [("max_images", encode settings.maxImages),
    ("relay_thread_name", encode settings.relayThreadName)]

instance : Decode SessionSettings where
  decode position json := do
    let absent : SessionSettings := {}
    let [maxImages, relayThreadName] ←
      json.optionalFields? ["max_images", "relay_thread_name"] | none
    return {
      maxImages := ← Json.fieldOr? position absent.maxImages maxImages
      relayThreadName := ← Json.fieldOr? position absent.relayThreadName relayThreadName }

instance : Encode SimulationSettings where
  encode settings := .record [("fps", encode settings.fps), ("frames", encode settings.frames),
    ("preview_width", encode settings.previewWidth),
    ("preview_height", encode settings.previewHeight),
    ("active_array_width", encode settings.activeArrayWidth),
    ("active_array_height", encode settings.activeArrayHeight),
    ("forward_delay_ms", encode settings.forwardDelay)]

instance : Decode SimulationSettings where
  decode position json := do
    let absent : SimulationSettings := {}
    let [fps, frames, previewWidth, previewHeight, activeArrayWidth, activeArrayHeight,
        forwardDelay] ←
      json.optionalFields? ["fps", "frames", "preview_width", "preview_height",
        "active_array_width", "active_array_height", "forward_delay_ms"] | none
    return {
      fps := ← Json.fieldOr? position absent.fps fps
      frames := ← Json.fieldOr? position absent.frames frames
      previewWidth := ← Json.fieldOr? position absent.previewWidth previewWidth
      previewHeight := ← Json.fieldOr? position absent.previewHeight previewHeight
      activeArrayWidth := ← Json.fieldOr? position absent.activeArrayWidth activeArrayWidth
      activeArrayHeight := ← Json.fieldOr? position absent.activeArrayHeight activeArrayHeight
      forwardDelay := ← Json.fieldOr? position absent.forwardDelay forwardDelay }

instance : Encode LoggingSettings where
  encode settings := .record [("level", encode settings.level), ("json", encode settings.json),
    ("file", encode settings.file)]

instance : Decode LoggingSettings where
  decode position json := do
    let absent : LoggingSettings := {}
    let [level, asJson, file] ← json.optionalFields? ["level", "json", "file"] | none
    return {
      level := ← Json.fieldOr? position absent.level level
      json := ← Json.fieldOr? position absent.json asJson
      file := ← Json.fieldOr? position absent.file file }

instance : Encode Settings where
  encode settings := .record [("session", encode settings.session),
    ("simulation", encode settings.simulation), ("logging", encode settings.logging)]

instance : Decode Settings where
  decode position json := do
    let absent : Settings := {}
    let [session, simulation, logging] ←
      json.optionalFields? ["session", "simulation", "logging"] | none
    return {
      session := ← Json.fieldOr? position absent.session session
      simulation := ← Json.fieldOr? position absent.simulation simulation
      logging := ← Json.fieldOr? position absent.logging logging }

/-! ## The file -/

inductive Stored
  | missing
  | directory
  | file (content : ByteArray)

namespace Stored

def read : Stored → Except Error String
  | .missing => .error (.file "No such file or directory (os error 2)")
  | .directory => .error (.file "Is a directory (os error 21)")
  | .file content =>
      match String.fromUTF8? content with
      | some text => .ok text
      | none => .error (.file "stream did not contain valid UTF-8")

/-- What stands at a path after a text was written there. Missing directories above it are made. -/
def write (text : String) : Stored → Except Error Stored
  | .directory => .error (.file "Is a directory (os error 21)")
  | _ => .ok (.file text.toUTF8)

end Stored

namespace Settings

def ofText (text : String) : Except Error Settings :=
  match decodeText Settings text with
  | some settings => .ok settings
  | none => .error .json

/-- The settings in a file, or why there are none. -/
def load (stored : Stored) : Except Error Settings := do ofText (← stored.read)

/-- The settings in effect: defaults where the file gives none. -/
def effective (stored : Stored) : Settings := ((load stored).toOption).getD {}

def text (settings : Settings) : String := (encode settings).pretty

def save (settings : Settings) (stored : Stored) : Except Error Stored :=
  stored.write settings.text

def below (directory name : String) : String :=
  if directory = "" then name
  else if directory.endsWith "/" then directory ++ name
  else s!"{directory}/{name}"

/-- The directory of the configuration file, given the directories of the environment. -/
def directory (configHome home : Option String) : String :=
  below (configHome.getD (below (home.getD "/tmp") ".config")) "efv"

def path (configHome home : Option String) : String :=
  below (directory configHome home) "config.json"

end Settings

end EyesFree
