import EyesFree.Metadata.Geometry

namespace EyesFree

/-! Values of metadata entries. An entry may hold a value of any type under any key; readers take
a value of another type than they expect as absent. -/

inductive Value
  | bool (value : Bool)
  | int (value : Int32)
  | long (value : Int64)
  | float (value : Single)
  | intPair (first second : Int32)
  | intArray (values : List Int32)
  | regions (rects : List Rect)
  | points (points : List Point)
deriving DecidableEq, Repr

namespace Value

def asBool? : Value → Option Bool
  | .bool value => some value
  | _ => none

def asInt? : Value → Option Int32
  | .int value => some value
  | _ => none

def asLong? : Value → Option Int64
  | .long value => some value
  | _ => none

end Value

/-! ## JSON form

A value is written as an object of its type's name and its content. The name may follow the
content; then the content is set aside until the type is known. Readers also take an array of both,
the type first. -/

inductive ValueType
  | bool
  | int
  | long
  | float
  | intPair
  | intArray
  | regions
  | points
deriving DecidableEq, Repr

namespace ValueType

def name : ValueType → String
  | .bool => "bool"
  | .int => "int"
  | .long => "long"
  | .float => "float"
  | .intPair => "int_pair"
  | .intArray => "int_array"
  | .regions => "regions"
  | .points => "points"

end ValueType

instance : Enumeration ValueType where
  values := [.bool, .int, .long, .float, .intPair, .intArray, .regions, .points]
  nodup := by decide
  complete value := by cases value <;> decide

namespace Value

def type : Value → ValueType
  | .bool _ => .bool
  | .int _ => .int
  | .long _ => .long
  | .float _ => .float
  | .intPair _ _ => .intPair
  | .intArray _ => .intArray
  | .regions _ => .regions
  | .points _ => .points

def content : Value → Json
  | .bool value => encode value
  | .int value => encode value
  | .long value => encode value
  | .float value => encode value
  | .intPair first second => .array [encode first, encode second]
  | .intArray values => encode values
  | .regions list => encode list
  | .points list => encode list

def ofContent? (position : Position) (json : Json) : ValueType → Option Value
  | .bool => (Decode.decode position json).map .bool
  | .int => (Decode.decode position json).map .int
  | .long => (Decode.decode position json).map .long
  | .float => (Decode.decode position json).map .float
  | .intPair => (Json.pair? Decode.decode Decode.decode position json).map
      fun (first, second) => .intPair first second
  | .intArray => (Decode.decode position json).map .intArray
  | .regions => (Decode.decode position json).map .regions
  | .points => (Decode.decode position json).map .points

def memberOrder (members : List (List TextUnit × Json)) : List String :=
  (members.filterMap fun member => TextUnit.toString? member.1).filter
    (["type", "value"].contains ·)

/-- The type at the front of an array: by its name or, in a value that was set aside, also by its
place among the types. -/
def leadingType? (position : Position) : Json → Option ValueType
  | .string text => do Enumeration.named? ValueType.name (← TextUnit.toString? text)
  | .number numeral => do
      let place ← numeral.integer?
      if position = .retained ∧ 0 ≤ place then Enumeration.values[place.toNat]? else none
  | _ => none

def decode (position : Position) : Json → Option Value
  | .object members => do
      let [some type, some content] ← Json.membersNamed? ["type", "value"] members | none
      let contentPosition ←
        if memberOrder members = ["type", "value"] then some position.inner
        else if position.inner.canRetain content then some .retained
        else none
      let type ← Json.variant? ValueType.name position.inner type
      ofContent? contentPosition content type
  | .array [type, content] => do
      ofContent? position.inner content (← leadingType? position type)
  | _ => none

end Value

instance : Encode Value where
  encode value := .record [("type", Json.ofString value.type.name), ("value", value.content)]

instance : Decode Value where
  decode := Value.decode

/-! ## Stabilization -/

inductive StabilizationMode
  | off
  | gimbal
  | locked
deriving DecidableEq, Repr

instance : Enumeration StabilizationMode where
  values := [.off, .gimbal, .locked]
  nodup := by decide
  complete value := by cases value <;> decide

namespace StabilizationMode

def name : StabilizationMode → String
  | .off => "off"
  | .gimbal => "gimbal"
  | .locked => "locked"

def toValue : StabilizationMode → Value
  | .off => .int 0
  | .gimbal => .int 1
  | .locked => .int 2

def ofValue? (value : Value) : Option StabilizationMode := do
  let number ← value.asInt?
  if number = 0 then some .off
  else if number = 1 then some .gimbal
  else if number = 2 then some .locked
  else none

/-- Letters are taken in either case; only those of ASCII have another one here. -/
def foldCase (text : String) : String := String.ofList (text.toList.map Char.toLower)

def parse (text : String) : Except String StabilizationMode :=
  match Enumeration.named? name (foldCase text) with
  | some mode => .ok mode
  | none => .error s!"unknown stabilization mode: {foldCase text}"

end StabilizationMode

instance : Encode StabilizationMode := ⟨fun mode => Json.ofString mode.name⟩

instance : Decode StabilizationMode where
  decode := Json.variant? StabilizationMode.name

end EyesFree
