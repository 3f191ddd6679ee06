import EyesFree.Json.Value

namespace EyesFree

/-! Reading JSON text. The grammar is strict: four kinds of blanks, no control characters inside
strings, no superfluous commas, nothing after the value. Each function reads from the front of a
text and returns what follows. -/

namespace TextUnit

def hexValue? (character : Char) : Option Nat :=
  let code := character.toNat
  if 48 ≤ code ∧ code < 58 then some (code - 48)
  else if 97 ≤ code ∧ code < 103 then some (code - 87)
  else if 65 ≤ code ∧ code < 71 then some (code - 55)
  else none

/-- The unit with a given number below `2 ^ 16`. -/
def ofNumber (unit : Nat) : TextUnit :=
  if 0xD800 ≤ unit ∧ unit < 0xDC00 then .leading (Fin.ofNat 1024 unit)
  else if 0xDC00 ≤ unit ∧ unit < 0xE000 then .trailing (Fin.ofNat 1024 unit)
  else .scalar (Char.ofNat unit)

def ofEscape? : Char → Option Char
  | '"' => some '"'
  | '\\' => some '\\'
  | '/' => some '/'
  | 'b' => some '\x08'
  | 'f' => some '\x0c'
  | 'n' => some '\n'
  | 'r' => some '\r'
  | 't' => some '\t'
  | _ => none

/-- The rest of a string after its opening quote, up to the closing one. -/
def scan : List Char → Option (List TextUnit × List Char)
  | [] => none
  | '"' :: rest => some ([], rest)
  | '\\' :: 'u' :: first :: second :: third :: fourth :: rest => do
      let first ← hexValue? first
      let second ← hexValue? second
      let third ← hexValue? third
      let fourth ← hexValue? fourth
      let (units, after) ← scan rest
      return (ofNumber (4096 * first + 256 * second + 16 * third + fourth) :: units, after)
  | '\\' :: letter :: rest => do
      let character ← ofEscape? letter
      let (units, after) ← scan rest
      return (.scalar character :: units, after)
  | character :: rest =>
      if character.toNat < 0x20 ∨ character = '\\' then none
      else do
        let (units, after) ← scan rest
        return (.scalar character :: units, after)

end TextUnit

namespace Json

def isBlank (character : Char) : Bool :=
  character = ' ' || character = '\t' || character = '\n' || character = '\r'

def skipBlanks : List Char → List Char
  | [] => []
  | character :: rest => if isBlank character then skipBlanks rest else character :: rest

def after? : (word text : List Char) → Option (List Char)
  | [], text => some text
  | letter :: word, character :: text => if letter = character then after? word text else none
  | _ :: _, [] => none

def scanName (text : List Char) : Option (List TextUnit × List Char) :=
  match skipBlanks text with
  | '"' :: rest => do
      let (name, rest) ← TextUnit.scan rest
      match skipBlanks rest with
      | ':' :: rest => return (name, rest)
      | _ => none
  | _ => none

mutual

/-- A value, with blanks allowed before it. The bound counts nested calls. -/
def scanValue : (bound : Nat) → List Char → Option (Json × List Char)
  | 0, _ => none
  | bound + 1, text =>
      match skipBlanks text with
      | 'n' :: rest => (after? ['u', 'l', 'l'] rest).map (.null, ·)
      | 't' :: rest => (after? ['r', 'u', 'e'] rest).map (.bool true, ·)
      | 'f' :: rest => (after? ['a', 'l', 's', 'e'] rest).map (.bool false, ·)
      | '"' :: rest => (TextUnit.scan rest).map fun (text, rest) => (.string text, rest)
      | '[' :: rest =>
          match skipBlanks rest with
          | ']' :: rest => some (.array [], rest)
          | _ => (scanItems bound rest).map fun (items, rest) => (.array items, rest)
      | '\x7b' :: rest =>
          match skipBlanks rest with
          | '\x7d' :: rest => some (.object [], rest)
          | _ => (scanMembers bound rest).map fun (members, rest) => (.object members, rest)
      | other => (Numeral.scan other).map fun (numeral, rest) => (.number numeral, rest)

/-- The items of an array, up to its closing bracket. -/
def scanItems : (bound : Nat) → List Char → Option (List Json × List Char)
  | 0, _ => none
  | bound + 1, text => do
      let (item, rest) ← scanValue bound text
      match skipBlanks rest with
      | ',' :: rest =>
          let (items, rest) ← scanItems bound rest
          return (item :: items, rest)
      | ']' :: rest => return ([item], rest)
      | _ => none

/-- The members of an object, up to its closing bracket. -/
def scanMembers : (bound : Nat) → List Char → Option (List (List TextUnit × Json) × List Char)
  | 0, _ => none
  | bound + 1, text => do
      let (name, rest) ← scanName text
      let (value, rest) ← scanValue bound rest
      match skipBlanks rest with
      | ',' :: rest =>
          let (members, rest) ← scanMembers bound rest
          return ((name, value) :: members, rest)
      | '\x7d' :: rest => return ([(name, value)], rest)
      | _ => none

end

/-- Every nested call but the first two reads at least half a character more than its caller. -/
def scanBound (text : List Char) : Nat := 2 * text.length + 2

def parseChars? (text : List Char) : Option Json := do
  let (value, rest) ← scanValue (scanBound text) text
  if skipBlanks rest = [] then return value else none

def parse? (text : String) : Option Json := parseChars? text.toList

end Json

end EyesFree
