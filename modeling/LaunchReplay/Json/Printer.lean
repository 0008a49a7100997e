import LaunchReplay.Json.Basic

/-!
# Printing JSON

Two layouts of a value: one without white space, and one with a line for every item, indented by
two spaces a level.
-/

namespace LaunchReplay.Json

/-- A string with its quotes. -/
def quotedString (written : List Char) : List Char :=
  '"' :: written ++ ['"']

/-- The layout of a value without parts. -/
def printAtom : Json → List Char
  | .null => "null".toList
  | .bool true => "true".toList
  | .bool false => "false".toList
  | .number literal => literal
  | .string written => quotedString written
  | _ => []

mutual

/-- The layout without white space. -/
def compact : Json → List Char
  | .array items => '[' :: compactItems items ++ [']']
  | .object members => '\x7b' :: compactMembers members ++ ['\x7d']
  | atom => printAtom atom

/-- Items with commas between them. -/
def compactItems : List Json → List Char
  | [] => []
  | [item] => item.compact
  | item :: rest => item.compact ++ ',' :: compactItems rest

/-- Members with commas between them. -/
def compactMembers : List (List Char × Json) → List Char
  | [] => []
  | [(key, value)] => quotedString key ++ ':' :: value.compact
  | (key, value) :: rest =>
    quotedString key ++ ':' :: value.compact ++ ',' :: compactMembers rest

end

/-- A line end with the indentation of a level. -/
def lineBreak (level : Nat) : List Char :=
  '\n' :: List.replicate (2 * level) ' '

mutual

/-- The indented layout of a value on a level. -/
def indented (level : Nat) : Json → List Char
  | .array [] => ['[', ']']
  | .array items => '[' :: indentedItems (level + 1) items ++ lineBreak level ++ [']']
  | .object [] => ['\x7b', '\x7d']
  | .object members =>
    '\x7b' :: indentedMembers (level + 1) members ++ lineBreak level ++ ['\x7d']
  | atom => printAtom atom

/-- Items on lines of their own. -/
def indentedItems (level : Nat) : List Json → List Char
  | [] => []
  | [item] => lineBreak level ++ item.indented level
  | item :: rest => lineBreak level ++ item.indented level ++ ',' :: indentedItems level rest

/-- Members on lines of their own. -/
def indentedMembers (level : Nat) : List (List Char × Json) → List Char
  | [] => []
  | [(key, value)] => lineBreak level ++ quotedString key ++ ':' :: ' ' :: value.indented level
  | (key, value) :: rest =>
    lineBreak level ++ quotedString key ++ ':' :: ' ' :: value.indented level ++
      ',' :: indentedMembers level rest

end

/-- The text of a value without white space. -/
def compactText (json : Json) : String :=
  String.ofList json.compact

/-- The indented text of a value. -/
def indentedText (json : Json) : String :=
  String.ofList (json.indented 0)

end LaunchReplay.Json
