import EyesFree.Enumeration
import EyesFree.Json.Parser
import EyesFree.Json.Printer

namespace EyesFree

/-! Types with a JSON form. Records are written as objects and read from objects or from arrays of
their fields; the values of plain enumerations are written by name. -/

/-- Where a value stands for its reader: inside so many arrays and objects that are read directly,
or inside a value that was set aside before it was read. -/
inductive Position
  | direct (depth : Nat)
  | retained
deriving DecidableEq, Repr

namespace Position

def inner : Position → Position
  | .direct depth => .direct (depth + 1)
  | .retained => .retained

def canRetain (value : Json) : Position → Bool
  | .direct depth => value.canBeRetained depth
  | .retained => true

end Position

class Encode (α : Type) where
  encode : α → Json

class Decode (α : Type) where
  decode : Position → Json → Option α
  /-- The value of a field that is left out, where the type has one. -/
  missing : Option α := none

export Encode (encode)

def decodeText (α : Type) [Decode α] (text : String) : Option α := do
  Decode.decode (.direct 0) (← Json.parse? text)

namespace Json

/-! ## Records -/

/-- The members of an object under the given names, in the order of the names. Members with other
names are ignored; a name that has no text, or a given name that occurs twice, is refused. -/
def membersNamed? (names : List String) (members : List (List TextUnit × Json)) :
    Option (List (Option Json)) := do
  let members ← members.mapM fun (name, value) => do return (← TextUnit.toString? name, value)
  names.mapM fun name =>
    match members.filter (·.1 = name) with
    | [] => some none
    | [(_, value)] => some (some value)
    | _ => none

/-- The fields of a record, from an object or from an array that lists all of them. -/
def fields? (names : List String) : Json → Option (List (Option Json))
  | .object members => membersNamed? names members
  | .array items => if items.length = names.length then some (items.map some) else none
  | _ => none

/-- The fields of a record in which any field may be left out: an array may end early. -/
def optionalFields? (names : List String) : Json → Option (List (Option Json))
  | .object members => membersNamed? names members
  | .array items =>
      if items.length ≤ names.length then
        some (items.map some ++ List.replicate (names.length - items.length) none)
      else none
  | _ => none

def field? {α : Type} [Decode α] (position : Position) : Option Json → Option α
  | none => Decode.missing
  | some value => Decode.decode position.inner value

/-- A field that has a value of its own when it is left out. -/
def fieldOr? {α : Type} [Decode α] (position : Position) (absent : α) : Option Json → Option α
  | none => some absent
  | some value => Decode.decode position.inner value

/-! ## Enumerations -/

/-- The name of a value without content: a string, or an object with this one name and no
content, that is null or, in a value that was set aside, an empty object. -/
def variantName? (position : Position) : Json → Option String
  | .string text => TextUnit.toString? text
  | .object [(name, .null)] => TextUnit.toString? name
  | .object [(name, .object [])] =>
      if position = .retained then TextUnit.toString? name else none
  | _ => none

/-- A value of a plain enumeration by its name. -/
def variant? {α : Type} [Enumeration α] (name : α → String) (position : Position) (json : Json) :
    Option α := do
  Enumeration.named? name (← variantName? position json)

/-! ## Pairs -/

def pair? {α β : Type} (first : Position → Json → Option α) (second : Position → Json → Option β)
    (position : Position) : Json → Option (α × β)
  | .array [left, right] => do
      return (← first position.inner left, ← second position.inner right)
  | _ => none

end Json

/-! ## Scalars and lists -/

def decodeInteger {α : Type} (lowest highest : Int) (convert : Int → α) : Json → Option α
  | .number numeral => do
      let value ← numeral.integer?
      if lowest ≤ value ∧ value ≤ highest then return convert value else none
  | _ => none

instance : Encode Bool := ⟨.bool⟩

instance : Decode Bool where
  decode _
    | .bool value => some value
    | _ => none

instance : Encode String := ⟨Json.ofString⟩

instance : Decode String where
  decode _
    | .string text => TextUnit.toString? text
    | _ => none

instance : Encode Nat := ⟨Json.ofNat⟩

instance : Encode Int32 := ⟨fun value => Json.ofInt value.toInt⟩

instance : Decode Int32 where
  decode _ := decodeInteger Int32.minValue.toInt Int32.maxValue.toInt Int32.ofInt

instance : Encode Int64 := ⟨fun value => Json.ofInt value.toInt⟩

instance : Decode Int64 where
  decode _ := decodeInteger Int64.minValue.toInt Int64.maxValue.toInt Int64.ofInt

instance : Encode UInt32 := ⟨fun value => Json.ofNat value.toNat⟩

instance : Decode UInt32 where
  decode _ := decodeInteger 0 (UInt32.size - 1) fun value => UInt32.ofNat value.toNat

instance : Encode UInt64 := ⟨fun value => Json.ofNat value.toNat⟩

instance : Decode UInt64 where
  decode _ := decodeInteger 0 (UInt64.size - 1) fun value => UInt64.ofNat value.toNat

/-- Numbers that are not finite have no literal and are written as null. -/
instance : Encode Single where
  encode value := if value.isFinite then .number (.ofSingle value) else .null

instance : Decode Single where
  decode _
    | .number numeral => numeral.single?
    | _ => none

instance {α : Type} [Encode α] : Encode (Option α) where
  encode
    | none => .null
    | some value => encode value

instance {α : Type} [Decode α] : Decode (Option α) where
  decode position
    | .null => some none
    | json => (Decode.decode position json).map some
  missing := some none

instance {α : Type} [Encode α] : Encode (List α) where
  encode values := .array (values.map encode)

instance {α : Type} [Decode α] : Decode (List α) where
  decode position
    | .array items => items.mapM (Decode.decode position.inner)
    | _ => none

end EyesFree
