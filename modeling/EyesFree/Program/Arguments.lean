import EyesFree.Metadata.Value
import EyesFree.Number.Text
import EyesFree.Session.Extender

namespace EyesFree

/-! The arguments of the command. An argument that does not fit, one too many or an option given
twice refuses the whole command. -/

structure SimulateArguments where
  extension : ExtenderKind := .eyesFreeVideography
  frames : Option UInt32 := none
  fps : Option UInt32 := none
  stabilization : Option StabilizationMode := none
  autoZoom : Bool := false
  paddingZoom : Option Single := none
  maxPaddingZoom : Option Single := none
  /-- Take a still after so many preview frames each; zero for none. -/
  stillEvery : UInt32 := 30
  forwardDelay : Option UInt64 := none
  events : Bool := false
deriving DecidableEq, Repr

inductive Command
  | simulate (arguments : SimulateArguments)
  | keys (name : Option String) (json : Bool)
  | config (save : Bool)
deriving DecidableEq, Repr

inductive Invocation
  | version
  | help
  | run (verbose : Bool) (command : Command)
deriving DecidableEq, Repr

/-! ## Options with a value -/

structure ValuedOption (α : Type) where
  name : String
  parse : String → Option α

def parseUInt32? (text : String) : Option UInt32 := do
  let value ← Decimal.integer? text.toList
  if 0 ≤ value ∧ value < UInt32.size then return UInt32.ofNat value.toNat else none

/-- Unlike the shorter numbers, these are refused with a minus sign also if they are zero. -/
def parseUInt64? (text : String) : Option UInt64 := do
  let (sign, digits) := Numeral.scanSign text.toList
  let value ← Decimal.natural? digits
  if sign ≠ some true ∧ value < UInt64.size then return UInt64.ofNat value else none

namespace SimulateArguments

def extensionOption : ValuedOption ExtenderKind :=
  ⟨"extension", fun text => (ExtenderKind.parse text).toOption⟩

def framesOption : ValuedOption UInt32 := ⟨"frames", parseUInt32?⟩

def fpsOption : ValuedOption UInt32 := ⟨"fps", parseUInt32?⟩

def stabilizationOption : ValuedOption StabilizationMode :=
  ⟨"stabilization", fun text => (StabilizationMode.parse text).toOption⟩

def paddingZoomOption : ValuedOption Single := ⟨"padding-zoom", Single.ofText?⟩

def maxPaddingZoomOption : ValuedOption Single := ⟨"max-padding-zoom", Single.ofText?⟩

def stillEveryOption : ValuedOption UInt32 := ⟨"still-every", parseUInt32?⟩

def forwardDelayOption : ValuedOption UInt64 := ⟨"forward-delay-ms", parseUInt64?⟩

end SimulateArguments

/-! ## Splitting -/

structure OptionShape where
  name : String
  accepts : String → Bool

def ValuedOption.shape {α : Type} (option : ValuedOption α) : OptionShape :=
  ⟨option.name, fun text => (option.parse text).isSome⟩

/-- What a command takes: options without a value, options with one, and how many arguments that
are not options. -/
structure Shape where
  flags : List String := []
  valued : List OptionShape := []
  positionals : Nat := 0

structure Sorted where
  flags : List String := []
  values : List (String × String) := []
  positionals : List String := []
  /-- Whether help was asked for before anything was wrong. -/
  help : Bool := false
deriving DecidableEq, Repr

namespace Sorted

def addFlag? (flag : String) (sorted : Sorted) : Option Sorted :=
  if flag ∈ sorted.flags then none else some { sorted with flags := sorted.flags ++ [flag] }

/-- Add an option with its value, unless the option was given before or does not take the value. -/
def addValue? (option : OptionShape) (value : String) (sorted : Sorted) : Option Sorted :=
  if option.name ∈ sorted.values.map (·.1) ∨ !option.accepts value then none
  else some { sorted with values := sorted.values ++ [(option.name, value)] }

def addPositional? (shape : Shape) (argument : String) (sorted : Sorted) : Option Sorted :=
  if sorted.positionals.length < shape.positionals then
    some { sorted with positionals := sorted.positionals ++ [argument] }
  else none

def addLetters? : List Char → Sorted → Option Sorted
  | [], sorted => some sorted
  | 'v' :: rest, sorted => do addLetters? rest (← sorted.addFlag? "verbose")
  | 'h' :: _, sorted => some { sorted with help := true }
  | _, _ => none

end Sorted

inductive ArgumentForm
  /-- Two dashes alone: what follows are no options. -/
  | separator
  | long (name : String) (value : Option String)
  | letters (letters : List Char)
  | plain
deriving DecidableEq, Repr

/-- A text up to the first equals sign, and what follows the sign. -/
def splitEquals : List Char → List Char × Option (List Char)
  | [] => ([], none)
  | '=' :: rest => ([], some rest)
  | character :: rest => (character :: (splitEquals rest).1, (splitEquals rest).2)

def ArgumentForm.of (argument : String) : ArgumentForm :=
  match argument.toList with
  | ['-', '-'] => .separator
  | '-' :: '-' :: rest =>
      let (name, value) := splitEquals rest
      .long (String.ofList name) (value.map String.ofList)
  | '-' :: letter :: rest => .letters (letter :: rest)
  | _ => .plain

/-- Sort the arguments of a command. The value of an option follows after an equals sign or as the
next argument, which then must not look like an option. An argument is judged when its turn comes,
so that help counts only if nothing before it is wrong. -/
def Shape.sort? (shape : Shape) : List String → Sorted → Option Sorted
  | [], sorted => some sorted
  | argument :: rest, sorted =>
      if sorted.help then some sorted
      else
        match ArgumentForm.of argument with
        | .separator =>
            rest.foldlM (fun sorted argument => sorted.addPositional? shape argument) sorted
        | .plain => do shape.sort? rest (← sorted.addPositional? shape argument)
        | .letters letters => do shape.sort? rest (← sorted.addLetters? letters)
        | .long name value =>
            if name = "help" ∧ value = none then some { sorted with help := true }
            else if name ∈ shape.flags ∨ name = "verbose" then
              if value = none then do shape.sort? rest (← sorted.addFlag? name) else none
            else
              match shape.valued.find? (·.name = name), value, rest with
              | some option, some value, rest => do
                  shape.sort? rest (← sorted.addValue? option value)
              | some option, none, value :: rest =>
                  if ArgumentForm.of value = .plain then do
                    shape.sort? rest (← sorted.addValue? option value)
                  else none
              | _, _, _ => none

namespace Sorted

def has (sorted : Sorted) (flag : String) : Bool := flag ∈ sorted.flags

def value? {α : Type} (sorted : Sorted) (option : ValuedOption α) : Option α := do
  let (_, text) ← sorted.values.find? (·.1 = option.name)
  option.parse text

end Sorted

/-! ## Commands -/

def simulateShape : Shape where
  flags := ["auto-zoom", "events"]
  valued := [SimulateArguments.extensionOption.shape, SimulateArguments.framesOption.shape,
    SimulateArguments.fpsOption.shape, SimulateArguments.stabilizationOption.shape,
    SimulateArguments.paddingZoomOption.shape, SimulateArguments.maxPaddingZoomOption.shape,
    SimulateArguments.stillEveryOption.shape, SimulateArguments.forwardDelayOption.shape]

def keysShape : Shape where
  flags := ["json"]
  positionals := 1

def configShape : Shape where
  flags := ["save"]

def SimulateArguments.ofSorted (sorted : Sorted) : SimulateArguments :=
  let absent : SimulateArguments := {}
  { extension := (sorted.value? extensionOption).getD absent.extension
    frames := sorted.value? framesOption
    fps := sorted.value? fpsOption
    stabilization := sorted.value? stabilizationOption
    autoZoom := sorted.has "auto-zoom"
    paddingZoom := sorted.value? paddingZoomOption
    maxPaddingZoom := sorted.value? maxPaddingZoomOption
    stillEvery := (sorted.value? stillEveryOption).getD absent.stillEvery
    forwardDelay := sorted.value? forwardDelayOption
    events := sorted.has "events" }

/-- The shape of a command and what its sorted arguments mean. -/
def commandNamed? : String → Option (Shape × (Sorted → Command))
  | "simulate" => some (simulateShape, fun sorted => .simulate (.ofSorted sorted))
  | "keys" => some (keysShape, fun sorted =>
      .keys sorted.positionals.head? (sorted.has "json"))
  | "config" => some (configShape, fun sorted => .config (sorted.has "save"))
  | _ => none

/-- Whether there is help on what stands after the word for help: on the program, on one of its
commands or on help itself. -/
def isHelpTopic : List String → Bool
  | [] => true
  | [name] => name = "help" || (commandNamed? name).isSome
  | _ => false

/-- What the one-letter options before the command ask for, the first of them first. -/
def topLetters? : List Char → (verbose : Bool) → Option (Bool ⊕ Invocation)
  | [], verbose => some (.inl verbose)
  | 'v' :: rest, verbose => if verbose then none else topLetters? rest true
  | 'V' :: _, _ => some (.inr .version)
  | 'h' :: _, _ => some (.inr .help)
  | _, _ => none

namespace Invocation

def parse? : List String → (verbose : Bool) → Option Invocation
  | [], _ => none
  | argument :: rest, verbose =>
      match ArgumentForm.of argument with
      | .long "verbose" none => if verbose then none else parse? rest true
      | .long "version" none => some .version
      | .long "help" none => some .help
      | .letters letters =>
          match topLetters? letters verbose with
          | some (.inl verbose) => parse? rest verbose
          | some (.inr invocation) => some invocation
          | none => none
      | .plain =>
          if argument = "help" then if isHelpTopic rest then some .help else none
          else do
            let (shape, command) ← commandNamed? argument
            let sorted ← shape.sort? rest {}
            if sorted.help then return .help
            return .run (verbose || sorted.has "verbose") (command sorted)
      | _ => none

end Invocation

end EyesFree
