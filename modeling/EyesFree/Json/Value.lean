import EyesFree.Number.Numeral

namespace EyesFree

/-! JSON values as they are written. Number literals keep their spelling, objects keep the order
and the repetitions of their members, and strings may hold surrogates that are not paired: whether
such a value is acceptable depends on who reads it. -/

/-- What a JSON string is made of. Characters beyond the first plane that are escaped as two
surrogates are kept as these. -/
inductive TextUnit
  | scalar (character : Char)
  | leading (offset : Fin 1024)
  | trailing (offset : Fin 1024)
deriving DecidableEq, Repr

namespace TextUnit

def ofString (text : String) : List TextUnit := text.toList.map .scalar

/-- The characters of a string in which each leading surrogate precedes a trailing one. -/
def toChars? : List TextUnit → Option (List Char)
  | [] => some []
  | .scalar character :: rest => (toChars? rest).map (character :: ·)
  | .leading high :: .trailing low :: rest =>
      (toChars? rest).map (Char.ofNat (0x10000 + 1024 * high.val + low.val) :: ·)
  | _ => none

def toString? (text : List TextUnit) : Option String := (toChars? text).map String.ofList

@[simp] theorem toChars?_map_scalar (text : List Char) :
    toChars? (text.map .scalar) = some text := by
  induction text with
  | nil => rfl
  | cons head tail induction => simp [toChars?, induction]

@[simp] theorem toString?_ofString (text : String) : toString? (ofString text) = some text := by
  simp [toString?, ofString]

end TextUnit

inductive Json
  | null
  | bool (value : Bool)
  | number (numeral : Numeral)
  | string (text : List TextUnit)
  | array (items : List Json)
  | object (members : List (List TextUnit × Json))

namespace Json

def ofString (text : String) : Json := .string (TextUnit.ofString text)

def ofInt (value : Int) : Json := .number (.ofInt value)

def ofNat (value : Nat) : Json := .ofInt value

def record (members : List (String × Json)) : Json :=
  .object (members.map fun member => (TextUnit.ofString member.1, member.2))

/-! ## Values that can be set aside

A reader that meets a value before it knows the type of it has to set the value aside. Then every
number in it must be in range, every string must have a text, and the nesting is limited. -/

mutual

def depth : Json → Nat
  | .array items => 1 + itemsDepth items
  | .object members => 1 + membersDepth members
  | _ => 0

def itemsDepth : List Json → Nat
  | [] => 0
  | item :: rest => max item.depth (itemsDepth rest)

def membersDepth : List (List TextUnit × Json) → Nat
  | [] => 0
  | (_, value) :: rest => max value.depth (membersDepth rest)

end

mutual

def isExact : Json → Bool
  | .number numeral => numeral.meaning?.isSome
  | .string text => (TextUnit.toString? text).isSome
  | .array items => itemsExact items
  | .object members => membersExact members
  | _ => true

def itemsExact : List Json → Bool
  | [] => true
  | item :: rest => item.isExact && itemsExact rest

def membersExact : List (List TextUnit × Json) → Bool
  | [] => true
  | (name, value) :: rest =>
      (TextUnit.toString? name).isSome && value.isExact && membersExact rest

end

/-- Arrays and objects may be nested this deep where the reader keeps track of them. -/
def depthLimit : Nat := 127

/-- Whether a value that stands inside `depth` arrays and objects can be set aside. -/
def canBeRetained (depth : Nat) (value : Json) : Bool :=
  value.isExact && decide (depth + value.depth ≤ depthLimit)

end Json

end EyesFree
