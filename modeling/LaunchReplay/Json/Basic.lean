import LaunchReplay.Json.Escape

/-!
# JSON values

The syntax of JSON as a tree. Numbers and strings are kept as they are written, so that any JSON
text can be held and only what is used of it has to have a meaning.
-/

namespace LaunchReplay

/-- A JSON value. -/
inductive Json
  | null
  | bool (value : Bool)
  /-- A number, as it is written. -/
  | number (literal : List Char)
  /-- A string, as it is written between its quotes. -/
  | string (written : List Char)
  | array (items : List Json)
  /-- An object, with its keys as they are written between their quotes. -/
  | object (members : List (List Char × Json))
deriving Inhabited

namespace Json

/-- A natural number. -/
def natural (number : Nat) : Json :=
  .number (Nat.toDigits 10 number)

/-- A text. -/
def text (text : String) : Json :=
  .string (escape text.toList)

/-- An object with the given keys in order. -/
def record (members : List (String × Json)) : Json :=
  .object (members.map fun member => (escape member.1.toList, member.2))

/-- The text of a string. -/
def text? : Json → Option String
  | .string written => (unescape? written).map String.ofList
  | _ => none

/-- The number below a bound that a literal of digits alone denotes. -/
def natural? (bound : Nat) : Json → Option Nat
  | .number literal => Text.natural? 10 bound literal
  | _ => none

/-- The truth value. -/
def bool? : Json → Option Bool
  | .bool value => some value
  | _ => none

/-- The items of an array. -/
def items? : Json → Option (List Json)
  | .array items => some items
  | _ => none

end Json

end LaunchReplay
