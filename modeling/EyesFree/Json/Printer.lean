import EyesFree.Json.Value

namespace EyesFree

/-! The text of a JSON value: compact on one line, or with each item on a line of its own. Only
quotes, backslashes and characters below the blank are escaped. -/

namespace TextUnit

def hexDigit (value : Nat) : Char :=
  if value < 10 then Char.ofNat (48 + value) else Char.ofNat (87 + value)

def escapeNumber (unit : Nat) : List Char :=
  ['\\', 'u', hexDigit (unit / 4096 % 16), hexDigit (unit / 256 % 16), hexDigit (unit / 16 % 16),
    hexDigit (unit % 16)]

def escapeChar (character : Char) : List Char :=
  if character = '"' then ['\\', '"']
  else if character = '\\' then ['\\', '\\']
  else if character = '\x08' then ['\\', 'b']
  else if character = '\t' then ['\\', 't']
  else if character = '\n' then ['\\', 'n']
  else if character = '\x0c' then ['\\', 'f']
  else if character = '\r' then ['\\', 'r']
  else if character.toNat < 0x20 then escapeNumber character.toNat
  else [character]

def escape : TextUnit → List Char
  | .scalar character => escapeChar character
  | .leading offset => escapeNumber (0xD800 + offset.val)
  | .trailing offset => escapeNumber (0xDC00 + offset.val)

def quote (text : List TextUnit) : List Char :=
  '"' :: (text.flatMap escape ++ ['"'])

end TextUnit

namespace Json

/-! ## On one line -/

mutual

def toChars : Json → List Char
  | .null => ['n', 'u', 'l', 'l']
  | .bool true => ['t', 'r', 'u', 'e']
  | .bool false => ['f', 'a', 'l', 's', 'e']
  | .number numeral => numeral.toChars
  | .string text => TextUnit.quote text
  | .array items => '[' :: (itemsToChars items ++ [']'])
  | .object members => '\x7b' :: (membersToChars members ++ ['\x7d'])

def itemsToChars : List Json → List Char
  | [] => []
  | [item] => item.toChars
  | item :: rest => item.toChars ++ ',' :: itemsToChars rest

def membersToChars : List (List TextUnit × Json) → List Char
  | [] => []
  | [(name, value)] => TextUnit.quote name ++ ':' :: value.toChars
  | (name, value) :: rest =>
      TextUnit.quote name ++ ':' :: (value.toChars ++ ',' :: membersToChars rest)

end

def compact (value : Json) : String := String.ofList value.toChars

/-! ## On several lines -/

/-- A line break and the indentation of a level, two blanks each. -/
def lineBreak (level : Nat) : List Char := '\n' :: List.replicate (2 * level) ' '

mutual

/-- The text of a value whose closing bracket is indented by `level`. -/
def prettyChars (level : Nat) : Json → List Char
  | .array [] => ['[', ']']
  | .array (item :: rest) =>
      '[' :: (prettyItems (level + 1) (item :: rest) ++ lineBreak level ++ [']'])
  | .object [] => ['\x7b', '\x7d']
  | .object (member :: rest) =>
      '\x7b' :: (prettyMembers (level + 1) (member :: rest) ++ lineBreak level ++ ['\x7d'])
  | .null => toChars .null
  | .bool value => toChars (.bool value)
  | .number numeral => toChars (.number numeral)
  | .string text => toChars (.string text)

def prettyItems (level : Nat) : List Json → List Char
  | [] => []
  | [item] => lineBreak level ++ prettyChars level item
  | item :: rest => lineBreak level ++ prettyChars level item ++ ',' :: prettyItems level rest

def prettyMembers (level : Nat) : List (List TextUnit × Json) → List Char
  | [] => []
  | [(name, value)] =>
      lineBreak level ++ TextUnit.quote name ++ ':' :: ' ' :: prettyChars level value
  | (name, value) :: rest =>
      lineBreak level ++ TextUnit.quote name ++ ':' :: ' ' :: prettyChars level value ++
        ',' :: prettyMembers level rest

end

def pretty (value : Json) : String := String.ofList (value.prettyChars 0)

end Json

end EyesFree
